import FinylDcp.MoneyPermissions
import FinylDcp.Sessions
import FinylDcp.Upserts

/-!
# Access management

The desk where the platform manages the tenants' users, roles, permissions, regions and
branches, approval thresholds and approvers. These routes are for the super admin alone; in the
settings of a tenant its system administrators configure its thresholds and approvers themselves.
The tables under natural keys have no constraint in the database; the routes keep them, one
request at a time.
-/
namespace FinylDcp
open Tables Text

/-- `ROLE_LABELS`. -/
def roleLabels : List (String × String) := [
  ("super_admin", "Super Admin"), ("tenant_admin", "Tenant Admin"),
  ("system_admin", "System Administrator"), ("relationship_officer", "Relationship Officer"),
  ("branch_manager", "Branch Manager"), ("regional_manager", "Regional Manager"),
  ("disbursement_officer", "Disbursement Officer"),
  ("reconciliation_officer", "Finance / Reconciliation Officer"),
  ("hq_operations", "HQ Operations"), ("hq_credit_committee", "HQ / Credit Committee"),
  ("director", "Director"), ("loan_officer", "Loan Officer (legacy)"),
  ("call_agent", "Call Agent")]

/-- `RESERVED_ROLE_KEYS`. -/
def reservedRoleKeys : List String := roleLabels.map Prod.fst

/-- `ASSIGNABLE_ROLES`. -/
def assignableRoles : List String := [
  "system_admin", "relationship_officer", "branch_manager", "regional_manager",
  "disbursement_officer", "reconciliation_officer", "hq_operations", "hq_credit_committee",
  "director", "tenant_admin", "loan_officer", "call_agent"]

/-- `LEGACY_ROLES`. -/
def legacyRoles : List String := ["tenant_admin", "loan_officer", "call_agent"]

def eligibleApproverRoles (approvalType : String) : List String :=
  match approvalTypePermission approvalType with
  | none => []
  | some perm => reservedRoleKeys.filter (fun role => role ≠ "super_admin" &&
      role ≠ "relationship_officer" && !legacyRoles.contains role && hasPermission role perm)

/-- `_ROLE_KEY_RE`. -/
def isRoleKey (key : String) : Bool :=
  let lower (c : Char) : Bool := 'a' ≤ c && c ≤ 'z'
  match key.toList with
  | [] => false
  | c :: rest => lower c && 2 ≤ rest.length && rest.length ≤ 39 &&
      rest.all (fun d => lower d || ('0' ≤ d && d ≤ '9') || d = '_')

/-- A role of a tenant's own, or the label it gives to a role of the platform. -/
structure CustomRole where
  tenantId : ℕ
  roleKey : String
  label : String
  deriving DecidableEq, Repr

structure ApprovalThreshold where
  id : ℕ
  tenantId : ℕ
  scopeType : String
  scopeKey : String
  thresholdType : String
  amount : ℤ
  deriving DecidableEq, Repr

def CustomRole.key (row : CustomRole) : ℕ × String := (row.tenantId, row.roleKey)

def RolePermissionOverride.key (row : RolePermissionOverride) : ℕ × String × String :=
  (row.tenantId, row.role, row.permissionKey)

def ApproverSetting.key (row : ApproverSetting) : ℕ × String × String :=
  (row.tenantId, row.approvalType, row.role)

def ApprovalThreshold.key (row : ApprovalThreshold) : ℕ × String × String × String :=
  (row.tenantId, row.scopeType, row.scopeKey, row.thresholdType)

/-- A user with the place in the organisation. -/
structure StaffedUser where
  account : UserAccount
  fullName : String
  staffId : Option ℕ
  branchId : Option ℕ
  regionId : Option ℕ
  deriving DecidableEq

structure Region where
  tenantId : ℕ
  name : String
  deriving DecidableEq, Repr

structure Branch where
  tenantId : ℕ
  name : String
  regionId : ℕ
  deriving DecidableEq, Repr

/-- What access management reads and writes. -/
structure AccessDesk where
  tenants : List ℕ
  users : List StaffedUser
  customRoles : KeyTable CustomRole.key
  overrides : KeyTable RolePermissionOverride.key
  settings : KeyTable ApproverSetting.key
  thresholds : KeyTable ApprovalThreshold.key
  nextThreshold : ℕ
  regions : List Region
  branches : List Branch

structure UserCreate where
  email : String
  fullName : String
  role : String
  password : Option String
  branchId : Option ℕ
  regionId : Option ℕ
  staffId : Option ℕ
  active : Bool

structure UserUpdate where
  fullName : Option String
  role : Option String
  branchId : Option ℕ
  regionId : Option ℕ
  staffId : Option ℕ
  active : Option Bool

inductive AccessRequest
  | createRole (roleKey label : String)
  | renameRole (roleKey label : String)
  | setRolePermission (roleKey permissionKey : String) (granted : Bool)
  | createUser (body : UserCreate) (hashed : String)
  | updateUser (userId : ℕ) (body : UserUpdate)
  | assignRole (userId : ℕ) (role : String)
  | setUserState (userId : ℕ) (activate lock : Option Bool)
  | resetPassword (userId : ℕ) (password : Option String) (hashed : String)
  | createRegion (name : String)
  | createBranch (name : String) (regionId : ℕ)
  | upsertThreshold (scopeType scopeKey thresholdType : String) (amount : ℤ)
  | deleteThreshold (thresholdId : ℕ)
  | setApproverConfig (tenantId : ℕ) (approvalType role : String) (enabled : Bool)
  | setOwnApprover (approvalType role : String) (enabled : Bool)
  | upsertOwnThreshold (scopeType scopeKey thresholdType : String) (amount : ℤ)
  | deleteOwnThreshold (thresholdId : ℕ)

/-- What the guards read of a user. -/
def StaffedUser.actor (user : StaffedUser) (userId : ℕ) : User :=
  ⟨userId, user.account.tenantId.getD 0, user.account.role⟩

/-- `require_role`. -/
def requireRole (user : User) (roles : List String) : Except Failure Unit :=
  refuseIf (user.role ≠ "super_admin" ∧ user.role ∉ roles) (.http 403 "Insufficient role")

/-- A request to the settings of a tenant; the others are access management. -/
def AccessRequest.ofSettings : AccessRequest → Bool
  | .setOwnApprover .. => true
  | .upsertOwnThreshold .. => true
  | .deleteOwnThreshold .. => true
  | _ => false

/-- The tenant of a request: who approves is configured for the one that the body names. -/
def AccessRequest.tenant (actor : User) (xTenantId : Option ℕ) : AccessRequest → Except Failure ℕ
  | .setApproverConfig tenantId _ _ _ => .ok tenantId
  | _ => getTenantId actor xTenantId

/-- A list of texts as the messages show one. -/
def showTexts (texts : List String) : String :=
  "[" ++ ", ".intercalate (texts.map (fun text => "'" ++ text ++ "'")) ++ "]"

namespace AccessDesk

variable (desk : AccessDesk)

def createRole (tenantId : ℕ) (roleKey label : String) : Except Failure AccessDesk := do
  let key := lower (strip roleKey)
  refuseIf (!isRoleKey key)
    (.http 422 "role_key must be lowercase letters/digits/underscore, 3-40 chars")
  refuseIf (key ∈ reservedRoleKeys) (.http 409 "That role key is reserved by the platform")
  refuseIf (desk.customRoles.get? (tenantId, key)).isSome
    (.http 409 "A role with that key already exists")
  let shown := cut 120 (strip (if label = "" then key else label))
  return { desk with customRoles := desk.customRoles.write ⟨tenantId, key, shown⟩ }

def renameRole (tenantId : ℕ) (roleKey label : String) : Except Failure AccessDesk := do
  refuseIf (roleKey = "super_admin") (.http 403 "The super_admin role cannot be modified")
  refuseIf (strip label = "") (.http 422 "label is required")
  refuseIf ((desk.customRoles.get? (tenantId, roleKey)).isNone ∧ roleKey ∉ reservedRoleKeys)
    (.http 404 "Unknown role")
  let row : CustomRole := ⟨tenantId, roleKey, cut 120 (strip label)⟩
  return { desk with customRoles := desk.customRoles.write row }

def setRolePermission (tenantId : ℕ) (roleKey permissionKey : String) (granted : Bool) :
    Except Failure AccessDesk := do
  refuseIf (roleKey = "super_admin")
    (.http 403 "The super_admin role holds all permissions and cannot be edited")
  refuseIf (permissionKey ∉ permissions) (.http 422 "Unknown permission key")
  refuseIf (roleKey ∉ reservedRoleKeys ∧ (desk.customRoles.get? (tenantId, roleKey)).isNone)
    (.http 404 "Unknown role")
  let row : RolePermissionOverride := ⟨tenantId, roleKey, permissionKey, granted⟩
  return { desk with overrides := desk.overrides.write row }

/-- `create_user`, with what `hash_password` came to. -/
def createUser (tenantId : ℕ) (body : UserCreate) (hashed : String) :
    Except Failure AccessDesk := do
  let email := strip (lower body.email)
  refuseIf (desk.users.any (fun u => u.account.email = email))
    (.http 409 "A user with that email already exists")
  let roles := showTexts assignableRoles
  refuseIf (body.role ∉ assignableRoles) (.http 400 s!"Role must be one of {roles}")
  let account : UserAccount :=
    { email := email
      hashedPassword := hashed
      role := body.role
      tenantId := some tenantId
      active := body.active
      isLocked := false
      forcePasswordReset := body.password.isNone
      failedLoginAttempts := 0
      lockedUntil := none
      tokenVersion := 0 }
  let user : StaffedUser := ⟨account, body.fullName, body.staffId, body.branchId, body.regionId⟩
  return { desk with users := desk.users ++ [user] }

/-- `_get_user`. -/
def getUser (tenantId userId : ℕ) : Except Failure StaffedUser :=
  match (desk.users[userId]?).filter (fun u => u.account.tenantId = some tenantId) with
  | none => .error (.http 404 "User not found")
  | some user =>
    if user.account.role = "super_admin" then
      .error (.http 403 "super_admin is platform-managed")
    else .ok user

/-- A user that is fetched, changed and saved. -/
def editUser (tenantId userId : ℕ) (edit : StaffedUser → Except Failure StaffedUser) :
    Except Failure AccessDesk := do
  let user ← desk.getUser tenantId userId
  let edited ← edit user
  return { desk with users := desk.users.set userId edited }

def updateUser (tenantId userId : ℕ) (body : UserUpdate) : Except Failure AccessDesk :=
  desk.editUser tenantId userId fun user => do
    refuseIf (body.role.any (fun role => role ∉ assignableRoles)) (.http 400 "Invalid role")
    return {
      account := { user.account with
        role := body.role.getD user.account.role
        active := body.active.getD user.account.active }
      fullName := body.fullName.getD user.fullName
      staffId := body.staffId.or user.staffId
      branchId := body.branchId.or user.branchId
      regionId := body.regionId.or user.regionId }

def assignRole (tenantId userId : ℕ) (role : String) : Except Failure AccessDesk :=
  desk.editUser tenantId userId fun user => do
    refuseIf (role ∉ assignableRoles) (.http 400 "Invalid role")
    return { user with account := { user.account with role := role } }

def setUserState (tenantId userId : ℕ) (activate lock : Option Bool) :
    Except Failure AccessDesk :=
  desk.editUser tenantId userId fun user =>
    .ok { user with account := { user.account with
      active := activate.getD user.account.active
      isLocked := lock.getD user.account.isLocked } }

/-- `reset_password`, with what `hash_password` came to. -/
def resetPassword (tenantId userId : ℕ) (password : Option String) (hashed : String) :
    Except Failure AccessDesk :=
  desk.editUser tenantId userId fun user =>
    match nonEmpty password with
    | some _ => .ok { user with account := { user.account with
        hashedPassword := hashed
        forcePasswordReset := false } }
    | none => .ok { user with account := { user.account with forcePasswordReset := true } }

def createRegion (tenantId : ℕ) (name : String) : AccessDesk :=
  { desk with regions := desk.regions ++ [⟨tenantId, name⟩] }

def createBranch (tenantId : ℕ) (name : String) (regionId : ℕ) : Except Failure AccessDesk := do
  refuseIf (!(desk.regions[regionId]?).any (fun r => r.tenantId = tenantId))
    (.http 400 "Region not found in this tenant")
  return { desk with branches := desk.branches ++ [⟨tenantId, name, regionId⟩] }

def upsertThreshold (tenantId : ℕ) (scopeType scopeKey thresholdType : String) (amount : ℤ) :
    AccessDesk :=
  match desk.thresholds.get? (tenantId, scopeType, scopeKey, thresholdType) with
  | some row => { desk with thresholds := desk.thresholds.write { row with amount := amount } }
  | none => { desk with
      thresholds := desk.thresholds.write
        ⟨desk.nextThreshold, tenantId, scopeType, scopeKey, thresholdType, amount⟩
      nextThreshold := desk.nextThreshold + 1 }

def deleteThreshold (tenantId thresholdId : ℕ) : Except Failure AccessDesk := do
  let named (row : ApprovalThreshold) : Bool := row.id = thresholdId && row.tenantId = tenantId
  refuseIf (!desk.thresholds.rows.any named) (.http 404 "Threshold not found")
  return { desk with thresholds := desk.thresholds.keep (fun row => !named row) }

def setApproverConfig (tenantId : ℕ) (approvalType role : String) (enabled : Bool) :
    Except Failure AccessDesk := do
  let types := showTexts approvalTypes
  refuseIf (approvalType ∉ approvalTypes) (.http 400 s!"approval_type must be one of {types}")
  refuseIf (role ∉ eligibleApproverRoles approvalType)
    (.http 400 s!"Role '{role}' is not an eligible approver for '{approvalType}'")
  refuseIf (tenantId ∉ desk.tenants) (.http 404 "Tenant not found")
  let row : ApproverSetting := ⟨tenantId, approvalType, role, enabled⟩
  return { desk with settings := desk.settings.write row }

/-- `set_approver_config` of the settings, at the tenant of the user. -/
def setOwnApprover (tenantId : ℕ) (approvalType role : String) (enabled : Bool) :
    Except Failure AccessDesk := do
  let types := showTexts approvalTypes
  refuseIf (approvalType ∉ approvalTypes) (.http 400 s!"approval_type must be one of {types}")
  refuseIf (role ∉ eligibleApproverRoles approvalType)
    (.http 400 s!"Role '{role}' is not an eligible approver for '{approvalType}'")
  let row : ApproverSetting := ⟨tenantId, approvalType, role, enabled⟩
  return { desk with settings := desk.settings.write row }

/-- A request at its tenant. -/
def handle (tenantId : ℕ) : AccessRequest → Except Failure AccessDesk
  | .createRole roleKey label => desk.createRole tenantId roleKey label
  | .renameRole roleKey label => desk.renameRole tenantId roleKey label
  | .setRolePermission roleKey permissionKey granted =>
    desk.setRolePermission tenantId roleKey permissionKey granted
  | .createUser body hashed => desk.createUser tenantId body hashed
  | .updateUser userId body => desk.updateUser tenantId userId body
  | .assignRole userId role => desk.assignRole tenantId userId role
  | .setUserState userId activate lock => desk.setUserState tenantId userId activate lock
  | .resetPassword userId password hashed => desk.resetPassword tenantId userId password hashed
  | .createRegion name => .ok (desk.createRegion tenantId name)
  | .createBranch name regionId => desk.createBranch tenantId name regionId
  | .upsertThreshold scopeType scopeKey thresholdType amount =>
    .ok (desk.upsertThreshold tenantId scopeType scopeKey thresholdType amount)
  | .deleteThreshold thresholdId => desk.deleteThreshold tenantId thresholdId
  | .setApproverConfig _ approvalType role enabled =>
    desk.setApproverConfig tenantId approvalType role enabled
  | .setOwnApprover approvalType role enabled =>
    desk.setOwnApprover tenantId approvalType role enabled
  | .upsertOwnThreshold scopeType scopeKey thresholdType amount =>
    .ok (desk.upsertThreshold tenantId scopeType scopeKey thresholdType amount)
  | .deleteOwnThreshold thresholdId => desk.deleteThreshold tenantId thresholdId

/-- The tenant of a request, of a user who may send it: a super admin, and to the settings of a
tenant a system administrator with the permission for thresholds. -/
def passGate (user : User) (xTenantId : Option ℕ) (r : AccessRequest) : Except Failure ℕ :=
  if r.ofSettings then do
    requireRole user ["system_admin"]
    let tenantId ← getTenantId user xTenantId
    requirePermission desk.overrides.rows user "thresholds.manage"
    return tenantId
  else do
    requireRole user []
    r.tenant user xTenantId

/-- A request by a signed-in user, with the tenant of its header. -/
def request (actorId : ℕ) (xTenantId : Option ℕ) (r : AccessRequest) :
    Except Failure AccessDesk :=
  match desk.users[actorId]? with
  | none => .error (.http 401 "User not found or inactive")
  | some actor => do
    let tenantId ← desk.passGate (actor.actor actorId) xTenantId r
    desk.handle tenantId r

end AccessDesk

/-- A request to the desk: by whom, and with which tenant in the header. -/
structure AccessCall where
  actorId : ℕ
  xTenantId : Option ℕ
  body : AccessRequest

/-- The desk after a request, which a refusal leaves as it was. -/
def AccessDesk.step (desk : AccessDesk) (call : AccessCall) : AccessDesk :=
  match desk.request call.actorId call.xTenantId call.body with
  | .ok desk' => desk'
  | .error _ => desk

end FinylDcp
