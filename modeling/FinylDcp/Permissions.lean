import FinylDcp.Schema
import Mathlib.Data.List.Basic

/-!
# Roles and permissions

Every role has its permissions in the catalogue; a tenant grants and revokes single ones by
overrides, and adds roles of its own that start with none. What a role may do at a tenant is
the catalogue with the overrides applied in their order. The super admin holds everything.
-/
namespace FinylDcp

/-- `PERMISSIONS`. -/
def permissions : List String := [
  "users.view", "users.manage", "users.lock", "roles.view", "roles.assign", "org.view",
  "org.manage", "thresholds.view", "thresholds.manage", "audit.view", "backups.manage",
  "payments.upload", "messaging.manage", "clients.view_all", "clients.view_portfolio",
  "clients.create", "clients.edit", "clients.edit_locked", "clients.approve", "docs.upload",
  "docs.verify", "loans.view_all", "loans.view_portfolio", "loans.create", "loans.approve",
  "loans.adjust", "loans.reassign", "loans.escalate", "loans.writeoff", "loans.transition",
  "disburse.execute", "disburse.approve", "refund.execute", "refund.approve", "reconcile.execute",
  "reconcile.approve", "collections.stk_push", "dashboard.company", "dashboard.region",
  "dashboard.branch", "dashboard.portfolio", "reports.export", "reports.schedule",
  "reports.template", "reports.flag", "accounting.export", "guarantors.manage", "kyc.escalate",
  "kyc.resolve", "field_ops.gps_view", "field_ops.tasks_manage", "activity.view",
  "collections.ptp_manage", "collections.efficiency_view", "api_clients.manage",
  "client_edits.request", "client_edits.approve_secondary", "client_edits.approve_primary",
  "security.manage", "search.global"]

def relationshipOfficerPermissions : List String := [
  "clients.view_portfolio", "clients.create", "clients.edit", "docs.upload", "docs.verify",
  "loans.view_portfolio", "loans.create", "collections.stk_push", "dashboard.portfolio",
  "guarantors.manage", "kyc.escalate", "collections.ptp_manage", "client_edits.request",
  "search.global"]

/-- `ROLE_PERMISSIONS`: the platform owner has the wildcard. -/
def rolePermissions : String → Option (List String)
  | "super_admin" => some ["*"]
  | "system_admin" => some [
      "users.view", "users.manage", "users.lock", "roles.view", "roles.assign", "org.view",
      "org.manage", "thresholds.view", "thresholds.manage", "audit.view", "backups.manage",
      "payments.upload", "messaging.manage", "accounting.export", "dashboard.company",
      "api_clients.manage", "security.manage", "activity.view", "field_ops.gps_view",
      "field_ops.tasks_manage", "search.global"]
  | "branch_manager" => some [
      "clients.view_all", "clients.edit", "clients.edit_locked", "clients.approve", "docs.upload",
      "docs.verify", "loans.view_all", "loans.approve", "loans.adjust", "loans.reassign",
      "loans.escalate", "loans.transition", "loans.writeoff", "disburse.approve", "refund.approve",
      "reconcile.approve", "collections.stk_push", "org.view", "thresholds.view",
      "dashboard.branch", "guarantors.manage", "kyc.escalate", "kyc.resolve", "field_ops.gps_view",
      "field_ops.tasks_manage", "activity.view", "collections.ptp_manage",
      "collections.efficiency_view", "client_edits.request", "client_edits.approve_secondary",
      "client_edits.approve_primary", "search.global"]
  | "regional_manager" => some [
      "clients.view_all", "loans.view_all", "loans.approve", "loans.escalate", "loans.reassign",
      "loans.transition", "loans.writeoff", "loans.adjust", "disburse.approve", "refund.approve",
      "reconcile.approve", "collections.stk_push", "org.view", "thresholds.view",
      "dashboard.region", "field_ops.gps_view", "field_ops.tasks_manage", "activity.view",
      "collections.efficiency_view", "kyc.resolve", "client_edits.approve_primary", "search.global"]
  | "disbursement_officer" => some [
      "clients.view_all", "loans.view_all", "dashboard.company", "disburse.execute",
      "disburse.approve"]
  | "reconciliation_officer" => some [
      "clients.view_all", "loans.view_all", "dashboard.company", "reconcile.execute",
      "refund.execute", "refund.approve", "reconcile.approve", "collections.stk_push",
      "payments.upload", "accounting.export"]
  | "hq_operations" => some [
      "clients.view_all", "loans.view_all", "dashboard.company", "reports.export",
      "reports.schedule", "reports.template", "reports.flag", "accounting.export", "audit.view",
      "activity.view", "field_ops.gps_view", "collections.efficiency_view", "search.global"]
  | "hq_credit_committee" => some [
      "clients.view_all", "loans.view_all", "dashboard.company", "clients.approve", "loans.approve",
      "loans.escalate", "loans.adjust", "loans.transition", "loans.writeoff", "disburse.approve",
      "refund.approve", "reconcile.approve"]
  | "director" => some [
      "clients.view_all", "loans.view_all", "clients.approve", "loans.approve", "loans.adjust",
      "loans.transition", "loans.writeoff", "loans.escalate", "disburse.approve", "refund.approve",
      "reconcile.approve", "dashboard.company", "reports.export", "reports.schedule",
      "reports.template", "reports.flag", "accounting.export", "audit.view", "activity.view",
      "org.view", "thresholds.view", "kyc.resolve", "collections.efficiency_view", "search.global"]
  | "relationship_officer" | "loan_officer" => some relationshipOfficerPermissions
  | "tenant_admin" => some permissions
  | "call_agent" => some ["clients.view_portfolio", "loans.view_portfolio", "dashboard.portfolio"]
  | _ => none

def permissionsFor (role : String) : List String :=
  let perms := (rolePermissions role).getD []
  if perms.contains "*" then permissions else perms

/-- What the catalogue alone says. -/
def hasPermission (role key : String) : Bool :=
  let perms := (rolePermissions role).getD []
  perms.contains "*" || perms.contains key

/-- A permission that a tenant grants to a role, or takes from it. -/
structure RolePermissionOverride where
  tenantId : ℕ
  role : String
  permissionKey : String
  granted : Bool
  deriving DecidableEq, Repr

/-- One override; a key outside the catalogue counts for nothing. -/
def applyOverride (perms : List String) (r : RolePermissionOverride) : List String :=
  if !permissions.contains r.permissionKey then perms
  else if r.granted then perms.insert r.permissionKey
  else perms.filter (fun key => key ≠ r.permissionKey)

/-- The permissions of a role at a tenant. -/
def effectivePermissions (overrides : List RolePermissionOverride) (tenantId : ℕ) (role : String) :
    List String :=
  if role = "super_admin" then permissions
  else (overrides.filter (fun r => r.tenantId = tenantId && r.role = role)).foldl applyOverride
    (permissionsFor role)

/-- A user as the routes read one; a super admin may have no tenant, which is 0. -/
structure User where
  id : ℕ
  tenantId : ℕ
  role : String
  deriving DecidableEq, Repr

/-- `get_tenant_id`: only the super admin chooses the tenant. -/
def getTenantId (user : User) (xTenantId : Option ℕ) : Except Failure ℕ :=
  if user.role = "super_admin" then
    match xTenantId with
    | some tenantId => .ok tenantId
    | none =>
      if user.tenantId ≠ 0 then .ok user.tenantId
      else .error (.http 400 "super_admin must supply X-Tenant-Id header")
  else .ok user.tenantId

/-- `require_permission` with `mode="any"`. -/
def requireAny (overrides : List RolePermissionOverride) (user : User) (keys : List String) :
    Except Failure Unit :=
  if user.role = "super_admin" then .ok ()
  else
    let effective := effectivePermissions overrides user.tenantId user.role
    let joined := " / ".intercalate keys
    refuseIf (!keys.any (fun key => effective.contains key))
      (.http 403 s!"Missing required permission: {joined}")

/-- `require_permission` of a single key. -/
def requirePermission (overrides : List RolePermissionOverride) (user : User) (key : String) :
    Except Failure Unit :=
  requireAny overrides user [key]

/-- The last thing a tenant has said about a permission of a role. -/
def lastOverride (overrides : List RolePermissionOverride) (tenantId : ℕ) (role key : String) :
    Option Bool :=
  ((overrides.filter
    (fun r => r.tenantId = tenantId && r.role = role && r.permissionKey = key)).getLast?).map
    (·.granted)

/-- A tenant has taken a permission from a role. -/
def Revoked (overrides : List RolePermissionOverride) (tenantId : ℕ) (role key : String) : Prop :=
  lastOverride overrides tenantId role key = some false

instance (overrides : List RolePermissionOverride) (tenantId : ℕ) (role key : String) :
    Decidable (Revoked overrides tenantId role key) :=
  inferInstanceAs (Decidable (_ = _))

theorem mem_applyOverride {perms : List String} {r : RolePermissionOverride} {key : String}
    (hkey : key ∈ permissions) : key ∈ applyOverride perms r ↔
      if r.permissionKey = key then r.granted = true else key ∈ perms := by
  unfold applyOverride
  by_cases hsame : r.permissionKey = key
  · subst hsame
    cases hgranted : r.granted <;> simp [hkey]
  · have hother : key ≠ r.permissionKey := fun h => hsame h.symm
    rw [if_neg hsame]
    split
    · rfl
    split
    · simp [hother]
    · simp [hother]

/-- The last override of a key decides; without one the start does. -/
theorem mem_foldl_applyOverride {key : String} (hkey : key ∈ permissions)
    (rows : List RolePermissionOverride) (perms : List String) :
    key ∈ rows.foldl applyOverride perms ↔
      (((rows.filter (fun r => r.permissionKey = key)).getLast?).map (·.granted)).getD
        (decide (key ∈ perms)) = true := by
  induction rows using List.reverseRecOn with
  | nil => simp
  | append_singleton rows r ih =>
    rw [List.foldl_append, List.foldl_cons, List.foldl_nil, mem_applyOverride hkey]
    by_cases hsame : r.permissionKey = key
    · simp [hsame, List.filter_append]
    · simp [hsame, List.filter_append, ih]

/-- What a role may do: what the tenant said last, and where it said nothing the catalogue. -/
theorem mem_effectivePermissions {overrides : List RolePermissionOverride} {tenantId : ℕ}
    {role key : String} (hkey : key ∈ permissions) (hrole : role ≠ "super_admin") :
    key ∈ effectivePermissions overrides tenantId role ↔
      (lastOverride overrides tenantId role key).getD (decide (key ∈ permissionsFor role)) =
        true := by
  rw [effectivePermissions, if_neg hrole, mem_foldl_applyOverride hkey, List.filter_filter]
  have hrows : overrides.filter (fun r => decide (r.permissionKey = key) &&
      (decide (r.tenantId = tenantId) && decide (r.role = role))) = overrides.filter
      (fun r => r.tenantId = tenantId && r.role = role && r.permissionKey = key) := by
    refine List.filter_congr fun r _ => ?_
    rw [Bool.and_comm]
  rw [hrows, lastOverride]

theorem hasPermission_iff {role key : String} (hkey : key ∈ permissions) :
    hasPermission role key = true ↔ key ∈ permissionsFor role := by
  by_cases hwildcard : "*" ∈ (rolePermissions role).getD []
  · simp [hasPermission, permissionsFor, hwildcard, hkey]
  · simp [hasPermission, permissionsFor, hwildcard]

/-- A permission of the catalogue is missing at a tenant exactly where it was revoked. -/
theorem revoked_iff {overrides : List RolePermissionOverride} {tenantId : ℕ} {role key : String}
    (hkey : key ∈ permissions) (hrole : role ≠ "super_admin")
    (hhas : hasPermission role key = true) :
    Revoked overrides tenantId role key ↔ key ∉ effectivePermissions overrides tenantId role := by
  have hmem := (hasPermission_iff hkey).mp hhas
  rw [mem_effectivePermissions hkey hrole, Revoked]
  cases lastOverride overrides tenantId role key <;> simp [hmem]

end FinylDcp
