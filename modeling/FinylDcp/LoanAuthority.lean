import FinylDcp.AccessDesk
import FinylDcp.LoanLifecycle

/-!
# Who may approve a loan

What a user may see, up to which amount a user approves, and to whom a loan goes on: the data
scope, the thresholds and the approvers of the tenant decide it when a loan is applied for,
reassigned, listed or decided on.
-/
namespace FinylDcp
open Tables

/-- `OFFICER_SCOPE_ROLES`. -/
def officerScopeRoles : List String := ["relationship_officer", "loan_officer", "call_agent"]

/-- `COMPANY_SCOPE_ROLES`. -/
def companyScopeRoles : List String := [
  "super_admin", "tenant_admin", "system_admin", "disbursement_officer", "reconciliation_officer",
  "hq_operations", "hq_credit_committee", "director"]

structure UserScope where
  role : String
  companyWide : Bool
  officerScoped : Bool
  staffId : Option ℕ
  branchIds : Option (List ℕ)
  deriving DecidableEq, Repr

/-- The rows of a listing that meet a condition, by position. -/
def idsWhere {α : Type} (rows : List α) (p : α → Bool) : List ℕ :=
  (List.range rows.length).filter (fun i => (rows[i]?).any p)

/-- `UserScope.__init__`: a regional manager sees the branches of the region, a branch manager the
one branch. -/
def UserScope.ofUser (user : StaffedUser) (branches : List Branch) : UserScope where
  role := user.account.role
  companyWide := companyScopeRoles.contains user.account.role
  officerScoped := officerScopeRoles.contains user.account.role
  staffId := user.staffId
  branchIds :=
    if user.account.role = "regional_manager" then
      user.regionId.map (fun region => idsWhere branches (fun b => b.regionId = region))
    else if user.account.role = "branch_manager" then user.branchId.map (fun branch => [branch])
    else none

/-- The columns of a loan beside its terms and money. -/
structure LoanPlacement where
  staffId : Option ℕ
  branchId : Option ℕ
  escalationLevel : Option String
  approvedByUserId : Option ℕ
  deriving DecidableEq, Repr

/-- Where a client belongs. -/
structure ClientPlacement where
  officerStaffId : Option ℕ
  branchId : Option ℕ
  deriving DecidableEq, Repr

structure StaffMember where
  tenantId : ℕ
  branchId : ℕ
  deriving DecidableEq, Repr

namespace UserScope

variable (scope : UserScope)

/-- What a scope shows of the rows of an officer and a branch. Nothing is shown where the scope
cannot be resolved. -/
def canSee (staffId branchId : Option ℕ) : Bool :=
  if scope.companyWide then true
  else if scope.officerScoped then scope.staffId.isSome && staffId = scope.staffId
  else
    match scope.branchIds with
    | some branchIds => branchId.any (fun branch => branchIds.contains branch)
    | none => false

def canSeeLoan (loan : LoanPlacement) : Bool := scope.canSee loan.staffId loan.branchId

def canSeeClient (client : ClientPlacement) : Bool :=
  scope.canSee client.officerStaffId client.branchId

/-- `apply_loan`, as the filter of a query: a column that is null equals nothing. -/
def applyLoan (loan : LoanPlacement) : Bool :=
  if scope.companyWide then true
  else if scope.officerScoped then
    match scope.staffId with
    | none => false
    | some staffId => loan.staffId.any (fun s => s = staffId)
  else
    match scope.branchIds with
    | some branchIds => loan.branchId.any (fun branch => branchIds.contains branch)
    | none => false

end UserScope

/-- `require_staff`. -/
def requireStaff (staff : List StaffMember) (tenantId staffId : ℕ) (scope : UserScope) :
    Except Failure ℕ :=
  match (staff[staffId]?).filter (fun s => s.tenantId = tenantId) with
  | none => .error (.http 404 "Staff not found")
  | some member =>
    if !scope.companyWide && !officerScopeRoles.contains scope.role &&
        scope.branchIds.any (fun branchIds => !branchIds.contains member.branchId) then
      .error (.http 403 "Staff member is outside your data scope")
    else .ok staffId

/-- `resolve_loan_officer`. -/
def resolveLoanOfficer (staff : List StaffMember) (tenantId : ℕ) (scope : UserScope)
    (client : ClientPlacement) (requestedStaffId : Option ℕ) : Except Failure (Option ℕ) :=
  if officerScopeRoles.contains scope.role then
    match scope.staffId with
    | none => .error (.http 403
        ("Your account is not linked to a staff record, so you cannot book loans. " ++
          "Ask an administrator to link it."))
    | some staffId =>
      if requestedStaffId.any (fun requested => requested ≠ staffId) then
        .error (.http 403 "You may only book loans against your own portfolio")
      else .ok (some staffId)
  else
    match requestedStaffId.or client.officerStaffId with
    | none => .ok none
    | some staffId => (requireStaff staff tenantId staffId scope).map some

/-- The amount that the last threshold of a scope sets. -/
def scopedAmount (rows : List ApprovalThreshold) (scopeType scopeKey : String) : Option ℤ :=
  ((rows.filter (fun r => r.scopeType = scopeType && r.scopeKey = scopeKey)).getLast?).map
    (·.amount)

/-- `loan_approval_limit`: that of the branch or region of its manager, or of the role; none is
no limit. -/
def loanApprovalLimit (thresholds : List ApprovalThreshold) (tenantId : ℕ) (user : StaffedUser) :
    Option ℤ :=
  let rows := thresholds.filter
    (fun r => r.tenantId = tenantId && r.thresholdType = "loan_approval")
  let role := user.account.role
  let managed : Option ℤ :=
    if role = "branch_manager" then
      user.branchId.bind (fun branch => scopedAmount rows "branch" branch.repr)
    else if role = "regional_manager" then
      user.regionId.bind (fun region => scopedAmount rows "region" region.repr)
    else none
  managed.or (scopedAmount rows "role" role)

/-- `ESCALATION_LADDER`. -/
def escalationLadder : String → Option String
  | "relationship_officer" => some "branch"
  | "loan_officer" => some "branch"
  | "branch_manager" => some "region"
  | "regional_manager" => some "hq"
  | _ => none

/-- `LOAN_TIERS`. -/
def loanTiers : List (String × String) :=
  [("branch_manager", "branch"), ("regional_manager", "region"), ("hq_credit_committee", "hq")]

def enabledLoanTiers (settings : List ApproverSetting) (tenantId : ℕ) : List (String × String) :=
  loanTiers.filter (fun tier => approverEnabled settings tenantId "loan" tier.1)

/-- The place of a role in the full ladder, from 1; 0 is below it. -/
def tierOf (role : String) : ℕ :=
  match (loanTiers.map Prod.fst).idxOf? role with
  | some i => i + 1
  | none => 0

/-- `next_escalation_level_for_tenant`. -/
def nextEscalationLevel (settings : List ApproverSetting) (tenantId : ℕ) (role : String) : String :=
  match (enabledLoanTiers settings tenantId).getLast? with
  | none => (escalationLadder role).getD "hq"
  | some highest =>
    match (enabledLoanTiers settings tenantId).find? (fun tier => tierOf role < tierOf tier.1) with
    | some tier => tier.2
    | none => highest.2

/-- Access management, and the loans, clients and staff of the tenants with their places. -/
structure CreditDesk where
  access : AccessDesk
  db : Db
  catalogue : Catalogue
  placements : List LoanPlacement
  clients : List ClientPlacement
  staff : List StaffMember

/-- A signed-in user with the tenant of the request. -/
structure Caller where
  actorId : ℕ
  xTenantId : Option ℕ
  deriving DecidableEq, Repr

/-- `require_module`, for each of the modules, with whether the tenant has it switched on. -/
def requireModules (user : StaffedUser) (modules : List (String × Bool)) : Except Failure Unit :=
  match modules.find? (fun m => !m.2) with
  | none => .ok ()
  | some (key, _) => refuseIf (user.account.role ≠ "super_admin")
      (.http 403 s!"Module '{key}' is not enabled for this tenant")

namespace CreditDesk

variable (desk : CreditDesk)

/-- The user and the tenant of a request that needs modules of the tenant. -/
def enter (caller : Caller) (modules : List (String × Bool)) :
    Except Failure (StaffedUser × ℕ) :=
  match desk.access.users[caller.actorId]? with
  | none => .error (.http 401 "User not found or inactive")
  | some user => do
    let tenantId ← getTenantId (user.actor caller.actorId) caller.xTenantId
    requireModules user modules
    return (user, tenantId)

/-- The user and the tenant of a request that needs a permission, too. -/
def authorise (caller : Caller) (modules : List (String × Bool)) (key : String) :
    Except Failure (StaffedUser × ℕ) := do
  let (user, tenantId) ← desk.enter caller modules
  requireAny desk.access.overrides.rows (user.actor caller.actorId) [key]
  return (user, tenantId)

def scope (user : StaffedUser) : UserScope := .ofUser user desk.access.branches

/-- `apply_for_loan`, with whether lending is switched on at the tenant. -/
def applyAs (caller : Caller) (lendingEnabled : Bool) (body : LoanApplication)
    (requestedStaffId : Option ℕ) (year : ℤ) : Except Failure CreditDesk := do
  let (user, tenantId) ← desk.authorise caller [("lending", lendingEnabled)] "loans.create"
  let client := (desk.clients[body.borrowerId]?).getD ⟨none, none⟩
  let officer := resolveLoanOfficer desk.staff tenantId (desk.scope user) client requestedStaffId
  let applicant : Applicant := ⟨(desk.scope user).canSeeClient client, officer.map fun _ => ()⟩
  let (db, _) ← applyForLoan desk.db desk.catalogue tenantId applicant body year
  let placement : LoanPlacement :=
    { staffId := officer.toOption.join
      branchId := client.branchId
      escalationLevel := none
      approvedByUserId := none }
  return { desk with db := db, placements := desk.placements ++ [placement] }

/-- `reassign_loan`. -/
def reassignAs (caller : Caller) (lendingEnabled : Bool) (loanId staffId : ℕ) :
    Except Failure CreditDesk := do
  let (user, tenantId) ← desk.authorise caller [("lending", lendingEnabled)] "loans.reassign"
  match loanRow desk.db tenantId loanId, desk.placements[loanId]? with
  | some _, some placement =>
    refuseIf (!(desk.scope user).canSeeLoan placement)
      (.http 403 "Loan is outside your data scope")
    refuseIf (!(desk.staff[staffId]?).any (fun s => s.tenantId = tenantId))
      (.http 404 "Target officer not found")
    let reassigned := { placement with staffId := some staffId }
    return { desk with placements := desk.placements.set loanId reassigned }
  | _, _ => .error (.http 404 "Loan not found")

/-- What the guards of a decision look up of a user. -/
def decider (user : StaffedUser) (tenantId : ℕ) (placement : LoanPlacement) : LoanDecider where
  seesLoan := (desk.scope user).canSeeLoan placement
  approver := approverEnabled desk.access.settings.rows tenantId "loan" user.account.role
  limit := loanApprovalLimit desk.access.thresholds.rows tenantId user
  nextLevel := some (nextEscalationLevel desk.access.settings.rows tenantId user.account.role)

/-- The columns that a decision writes beside the status. -/
def decidedPlacement (actorId : ℕ) (level : Option String) (action : String)
    (placement : LoanPlacement) : LoanPlacement :=
  if action = "reject" then { placement with approvedByUserId := some actorId }
  else if action = "escalate" then { placement with escalationLevel := level }
  else { placement with approvedByUserId := some actorId, escalationLevel := none }

/-- `POST /approvals/loans/{id}`. An amount over the limit is refused, and yet the loan goes to the
next level. -/
def decideAs (caller : Caller) (loanId : ℕ) (action : String) : CreditDesk × Except Failure Unit :=
  match desk.authorise caller [] "loans.approve" with
  | .error failure => (desk, .error failure)
  | .ok (user, tenantId) =>
    let placement := (desk.placements[loanId]?).getD ⟨none, none, none, none⟩
    let decider := desk.decider user tenantId placement
    match decideLoan desk.db tenantId loanId decider action with
    | .ok db =>
      let decided := decidedPlacement caller.actorId decider.nextLevel action placement
      ({ desk with db := db, placements := desk.placements.set loanId decided }, .ok ())
    | .error (.http 409 detail) =>
      let escalated := { placement with escalationLevel := decider.nextLevel }
      ({ desk with placements := desk.placements.set loanId escalated }, .error (.http 409 detail))
    | .error failure => (desk, .error failure)

/-- A row of the queue. -/
structure QueuedLoan where
  loanId : ℕ
  approvalLimit : Option ℤ
  overLimit : Bool
  deriving DecidableEq, Repr

/-- `GET /approvals/loans`: the newest first. -/
def pendingLoans (caller : Caller) : Except Failure (List QueuedLoan) := do
  let (user, tenantId) ← desk.authorise caller [] "loans.approve"
  let limit := loanApprovalLimit desk.access.thresholds.rows tenantId user
  let waits (loanId : ℕ) : Bool := (loanRow desk.db tenantId loanId).any
      (fun loan => loan.status = .pending || loan.status = .underwriting) &&
    (desk.placements[loanId]?).any (desk.scope user).applyLoan
  let ids := (List.range desk.db.loans.length).reverse.filter waits
  return ids.map fun loanId =>
    ⟨loanId, limit, limit.any (fun most =>
      (desk.db.loans[loanId]?).any (fun loan => most < loan.principal))⟩

end CreditDesk

/-- A decision, which the desk takes itself. -/
def LifeEvent.decides : LifeEvent → Bool
  | .decide .. => true
  | _ => false

inductive CreditEvent
  | access (call : AccessCall)
  | apply (caller : Caller) (lendingEnabled : Bool) (body : LoanApplication)
    (requestedStaffId : Option ℕ) (year : ℤ)
  | reassign (caller : Caller) (lendingEnabled : Bool) (loanId staffId : ℕ)
  | decide (caller : Caller) (loanId : ℕ) (action : String)
  | life (e : LifeEvent)

def CreditDesk.saved (desk : CreditDesk) : Except Failure CreditDesk → CreditDesk
  | .ok saved => saved
  | .error _ => desk

/-- The desk after an event; what happens to loans beside decisions happens to its database. -/
def CreditDesk.step (desk : CreditDesk) : CreditEvent → CreditDesk
  | .access call => { desk with access := desk.access.step call }
  | .apply caller lendingEnabled body requestedStaffId year =>
    desk.saved (desk.applyAs caller lendingEnabled body requestedStaffId year)
  | .reassign caller lendingEnabled loanId staffId =>
    desk.saved (desk.reassignAs caller lendingEnabled loanId staffId)
  | .decide caller loanId action => (desk.decideAs caller loanId action).1
  | .life e => if e.decides then desk else { desk with db := e.apply desk.db }

end FinylDcp
