import FinylDcp.AccessDesk

/-!
# Access management over many requests

One lemma says what an accepted request does. From it, over any requests of any users: what a
role may do is what a super admin said last about it, nobody but the super admins changes more
than the thresholds and approvers of a tenant, and no request makes a super admin or touches one.
-/
namespace FinylDcp
open Runs Tables

/-- The fields of an account that no request of the desk changes. -/
structure StaffedUser.SameLogin (user edited : StaffedUser) : Prop where
  email : edited.account.email = user.account.email
  tenantId : edited.account.tenantId = user.account.tenantId
  tokenVersion : edited.account.tokenVersion = user.account.tokenVersion
  failedLoginAttempts : edited.account.failedLoginAttempts = user.account.failedLoginAttempts
  lockedUntil : edited.account.lockedUntil = user.account.lockedUntil

theorem StaffedUser.SameLogin.refl (user : StaffedUser) : user.SameLogin user :=
  ⟨rfl, rfl, rfl, rfl, rfl⟩

theorem StaffedUser.SameLogin.trans {a b c : StaffedUser} (h : a.SameLogin b)
    (h' : b.SameLogin c) : a.SameLogin c :=
  ⟨h'.email.trans h.email, h'.tenantId.trans h.tenantId, h'.tokenVersion.trans h.tokenVersion,
    h'.failedLoginAttempts.trans h.failedLoginAttempts, h'.lockedUntil.trans h.lockedUntil⟩

namespace AccessDesk

/-- What an accepted request at a tenant changes. -/
inductive Change (desk : AccessDesk) (tenantId : ℕ) (r : AccessRequest) : AccessDesk → Prop
  | role (row : CustomRole) (htenant : row.tenantId = tenantId)
      (hrole : row.roleKey ≠ "super_admin") :
      Change desk tenantId r { desk with customRoles := desk.customRoles.write row }
  | permission (row : RolePermissionOverride) (htenant : row.tenantId = tenantId)
      (hbody : r = .setRolePermission row.role row.permissionKey row.granted)
      (hrole : row.role ≠ "super_admin") (hkey : row.permissionKey ∈ permissions) :
      Change desk tenantId r { desk with overrides := desk.overrides.write row }
  | hires (user : StaffedUser) (htenant : user.account.tenantId = some tenantId)
      (hrole : user.account.role ∈ assignableRoles)
      (hemail : ∀ u ∈ desk.users, u.account.email ≠ user.account.email) :
      Change desk tenantId r { desk with users := desk.users ++ [user] }
  | edits (userId : ℕ) (user edited : StaffedUser) (hrow : desk.users[userId]? = some user)
      (htenant : user.account.tenantId = some tenantId) (hrole : user.account.role ≠ "super_admin")
      (hedited : edited.account.role = user.account.role ∨ edited.account.role ∈ assignableRoles)
      (hlogin : user.SameLogin edited) :
      Change desk tenantId r { desk with users := desk.users.set userId edited }
  | organises (regions : List Region) (branches : List Branch) :
      Change desk tenantId r { desk with regions := regions, branches := branches }
  | limits (thresholds : KeyTable ApprovalThreshold.key) (nextThreshold : ℕ)
      (hothers : ∀ key : ℕ × String × String × String, key.1 ≠ tenantId →
        thresholds.get? key = desk.thresholds.get? key) :
      Change desk tenantId r
        { desk with thresholds := thresholds, nextThreshold := nextThreshold }
  | approver (row : ApproverSetting) (htenant : row.tenantId = tenantId)
      (hrole : row.role ∈ eligibleApproverRoles row.approvalType) :
      Change desk tenantId r { desk with settings := desk.settings.write row }

section Requests

variable {desk desk' : AccessDesk} {tenantId : ℕ}

theorem getUser_eq_ok {userId : ℕ} {user : StaffedUser}
    (h : desk.getUser tenantId userId = .ok user) :
    desk.users[userId]? = some user ∧ user.account.tenantId = some tenantId ∧
      user.account.role ≠ "super_admin" := by
  unfold getUser at h
  split at h
  · cases h
  rename_i found hfound
  obtain ⟨hrow, htenant⟩ := Option.filter_eq_some_iff.mp hfound
  split at h
  · cases h
  · rename_i hrole
    obtain rfl := Except.ok.inj h
    exact ⟨hrow, by simpa using htenant, hrole⟩

theorem editUser_change {userId : ℕ} {edit : StaffedUser → Except Failure StaffedUser}
    (hedit : ∀ user edited, edit user = .ok edited →
      (edited.account.role = user.account.role ∨ edited.account.role ∈ assignableRoles) ∧
        user.SameLogin edited)
    (r : AccessRequest) (h : desk.editUser tenantId userId edit = .ok desk') :
    Change desk tenantId r desk' := by
  obtain ⟨user, huser, h⟩ := bind_eq_ok.mp h
  obtain ⟨edited, hedited, h⟩ := bind_eq_ok.mp h
  obtain rfl := Except.ok.inj h
  obtain ⟨hrow, htenant, hrole⟩ := getUser_eq_ok huser
  obtain ⟨hassigned, hlogin⟩ := hedit user edited hedited
  exact .edits userId user edited hrow htenant hrole hassigned hlogin

theorem upsertThreshold_change {scopeType scopeKey thresholdType : String} {amount : ℤ}
    (r : AccessRequest) :
    Change desk tenantId r
      (desk.upsertThreshold tenantId scopeType scopeKey thresholdType amount) := by
  unfold upsertThreshold
  split
  · rename_i row hrow
    refine .limits _ _ fun key hother => ?_
    have hkey : row.key = (tenantId, scopeType, scopeKey, thresholdType) :=
      (KeyTable.get?_eq_some.mp hrow).2
    rw [KeyTable.get?_write]
    refine if_neg fun hsame => hother ?_
    rw [← hsame]
    exact congrArg Prod.fst hkey
  · refine .limits _ _ fun key hother => ?_
    rw [KeyTable.get?_write]
    refine if_neg fun hsame => hother ?_
    rw [← hsame]
    rfl

theorem deleteThreshold_change {thresholdId : ℕ} (r : AccessRequest)
    (h : desk.deleteThreshold tenantId thresholdId = .ok desk') : Change desk tenantId r desk' := by
  obtain ⟨-, -, h⟩ := bind_eq_ok.mp h
  obtain rfl := Except.ok.inj h
  refine .limits _ _ fun key hother => ?_
  apply Option.ext
  intro row
  rw [KeyTable.get?_eq_some, KeyTable.get?_eq_some, KeyTable.keep, List.mem_filter]
  refine ⟨fun hrow => ⟨hrow.1.1, hrow.2⟩, fun hrow => ⟨⟨hrow.1, ?_⟩, hrow.2⟩⟩
  have htenant : row.tenantId ≠ tenantId := by
    rw [← hrow.2] at hother
    exact hother
  simp [htenant]

theorem ne_superAdmin_of_not_reserved {key : String} (h : key ∉ reservedRoleKeys) :
    key ≠ "super_admin" := by
  rintro rfl
  exact h (by decide)

section Changes

variable (r : AccessRequest)

theorem createRole_change {roleKey label : String}
    (h : desk.createRole tenantId roleKey label = .ok desk') : Change desk tenantId r desk' := by
  obtain ⟨-, -, h⟩ := bind_eq_ok.mp h
  obtain ⟨_, hreserved, h⟩ := bind_eq_ok.mp h
  obtain ⟨-, -, h⟩ := bind_eq_ok.mp h
  obtain rfl := Except.ok.inj h
  exact .role _ rfl (ne_superAdmin_of_not_reserved (refuseIf_eq_ok.mp hreserved))

theorem renameRole_change {roleKey label : String}
    (h : desk.renameRole tenantId roleKey label = .ok desk') : Change desk tenantId r desk' := by
  obtain ⟨_, hprotected, h⟩ := bind_eq_ok.mp h
  obtain ⟨-, -, h⟩ := bind_eq_ok.mp h
  obtain ⟨-, -, h⟩ := bind_eq_ok.mp h
  obtain rfl := Except.ok.inj h
  exact .role _ rfl (refuseIf_eq_ok.mp hprotected)

theorem setRolePermission_change {roleKey permissionKey : String} {granted : Bool}
    (h : desk.setRolePermission tenantId roleKey permissionKey granted = .ok desk') :
    Change desk tenantId (.setRolePermission roleKey permissionKey granted) desk' := by
  obtain ⟨_, hprotected, h⟩ := bind_eq_ok.mp h
  obtain ⟨_, hkey, h⟩ := bind_eq_ok.mp h
  obtain ⟨-, -, h⟩ := bind_eq_ok.mp h
  obtain rfl := Except.ok.inj h
  exact .permission _ rfl rfl (refuseIf_eq_ok.mp hprotected) (not_not.mp (refuseIf_eq_ok.mp hkey))

theorem updateUser_change {userId : ℕ} {body : UserUpdate}
    (h : desk.updateUser tenantId userId body = .ok desk') : Change desk tenantId r desk' := by
  refine editUser_change (fun user edited hedited => ?_) r h
  obtain ⟨_, hrole, hedited⟩ := bind_eq_ok.mp hedited
  obtain rfl := Except.ok.inj hedited
  refine ⟨?_, rfl, rfl, rfl, rfl, rfl⟩
  have hallowed := refuseIf_eq_ok.mp hrole
  cases hbody : body.role with
  | none => exact .inl rfl
  | some role => exact .inr (by simpa [hbody] using hallowed)

theorem assignRole_change {userId : ℕ} {role : String}
    (h : desk.assignRole tenantId userId role = .ok desk') : Change desk tenantId r desk' := by
  refine editUser_change (fun user edited hedited => ?_) r h
  obtain ⟨_, hrole, hedited⟩ := bind_eq_ok.mp hedited
  obtain rfl := Except.ok.inj hedited
  exact ⟨.inr (not_not.mp (refuseIf_eq_ok.mp hrole)), rfl, rfl, rfl, rfl, rfl⟩

theorem setUserState_change {userId : ℕ} {activate lock : Option Bool}
    (h : desk.setUserState tenantId userId activate lock = .ok desk') :
    Change desk tenantId r desk' := by
  refine editUser_change (fun user edited hedited => ?_) r h
  obtain rfl := Except.ok.inj hedited
  exact ⟨.inl rfl, rfl, rfl, rfl, rfl, rfl⟩

theorem createBranch_change {name : String} {regionId : ℕ}
    (h : desk.createBranch tenantId name regionId = .ok desk') : Change desk tenantId r desk' := by
  obtain ⟨-, -, h⟩ := bind_eq_ok.mp h
  obtain rfl := Except.ok.inj h
  exact .organises _ _

theorem setApproverConfig_change {approvalType role : String} {enabled : Bool}
    (h : desk.setApproverConfig tenantId approvalType role enabled = .ok desk') :
    Change desk tenantId r desk' := by
  obtain ⟨-, -, h⟩ := bind_eq_ok.mp h
  obtain ⟨_, hrole, h⟩ := bind_eq_ok.mp h
  obtain ⟨-, -, h⟩ := bind_eq_ok.mp h
  obtain rfl := Except.ok.inj h
  exact .approver _ rfl (not_not.mp (refuseIf_eq_ok.mp hrole))

theorem setOwnApprover_change {approvalType role : String} {enabled : Bool}
    (h : desk.setOwnApprover tenantId approvalType role enabled = .ok desk') :
    Change desk tenantId r desk' := by
  obtain ⟨-, -, h⟩ := bind_eq_ok.mp h
  obtain ⟨_, hrole, h⟩ := bind_eq_ok.mp h
  obtain rfl := Except.ok.inj h
  exact .approver _ rfl (not_not.mp (refuseIf_eq_ok.mp hrole))

theorem createUser_change {body : UserCreate} {hashed : String}
    (h : desk.createUser tenantId body hashed = .ok desk') :
    Change desk tenantId r desk' := by
  obtain ⟨_, hemail, h⟩ := bind_eq_ok.mp h
  obtain ⟨_, hrole, h⟩ := bind_eq_ok.mp h
  obtain rfl := Except.ok.inj h
  refine .hires _ rfl (not_not.mp (refuseIf_eq_ok.mp hrole)) ?_
  simpa using refuseIf_eq_ok.mp hemail

theorem resetPassword_change {userId : ℕ} {password : Option String} {hashed : String}
    (h : desk.resetPassword tenantId userId password hashed = .ok desk') :
    Change desk tenantId r desk' := by
  refine editUser_change (fun user edited hedited => ?_) r h
  split at hedited
  · obtain rfl := Except.ok.inj hedited
    exact ⟨.inl rfl, rfl, rfl, rfl, rfl, rfl⟩
  · obtain rfl := Except.ok.inj hedited
    exact ⟨.inl rfl, rfl, rfl, rfl, rfl, rfl⟩

end Changes

/-- Only a super admin is let into access management. -/
theorem passGate_eq_ok {user : User} {xTenantId : Option ℕ} {r : AccessRequest}
    (h : desk.passGate user xTenantId r = .ok tenantId) :
    (r.ofSettings = false → user.role = "super_admin") ∧
      r.tenant user xTenantId = .ok tenantId := by
  unfold passGate at h
  split at h
  · rename_i hsettings
    obtain ⟨-, -, h⟩ := bind_eq_ok.mp h
    obtain ⟨t, htenant, h⟩ := bind_eq_ok.mp h
    obtain ⟨-, -, h⟩ := bind_eq_ok.mp h
    obtain rfl := Except.ok.inj h
    refine ⟨fun hother => by simp [hsettings] at hother, ?_⟩
    cases r <;> first | exact htenant | cases hsettings
  · obtain ⟨_, hrole, h⟩ := bind_eq_ok.mp h
    refine ⟨fun _ => ?_, h⟩
    have hadmin := refuseIf_eq_ok.mp hrole
    simpa using hadmin

theorem handle_change {r : AccessRequest} (h : desk.handle tenantId r = .ok desk') :
    Change desk tenantId r desk' := by
  cases r with
  | createRole roleKey label => exact createRole_change _ h
  | renameRole roleKey label => exact renameRole_change _ h
  | setRolePermission roleKey permissionKey granted => exact setRolePermission_change h
  | createUser body hashed => exact createUser_change _ h
  | updateUser userId body => exact updateUser_change _ h
  | assignRole userId role => exact assignRole_change _ h
  | setUserState userId activate lock => exact setUserState_change _ h
  | resetPassword userId password hashed => exact resetPassword_change _ h
  | createRegion name =>
    obtain rfl := Except.ok.inj h
    exact .organises _ _
  | createBranch name regionId => exact createBranch_change _ h
  | upsertThreshold scopeType scopeKey thresholdType amount =>
    obtain rfl := Except.ok.inj h
    exact upsertThreshold_change _
  | deleteThreshold thresholdId => exact deleteThreshold_change _ h
  | setApproverConfig _ approvalType role enabled => exact setApproverConfig_change _ h
  | setOwnApprover approvalType role enabled => exact setOwnApprover_change _ h
  | upsertOwnThreshold scopeType scopeKey thresholdType amount =>
    obtain rfl := Except.ok.inj h
    exact upsertThreshold_change _
  | deleteOwnThreshold thresholdId => exact deleteThreshold_change _ h

theorem request_eq_ok {actorId : ℕ} {xTenantId : Option ℕ} {r : AccessRequest}
    (h : desk.request actorId xTenantId r = .ok desk') :
    ∃ actor tenantId, desk.users[actorId]? = some actor ∧
      (r.ofSettings = false → actor.account.role = "super_admin") ∧
      r.tenant (actor.actor actorId) xTenantId = .ok tenantId ∧
      desk.handle tenantId r = .ok desk' := by
  unfold request at h
  split at h
  · cases h
  rename_i actor hactor
  obtain ⟨tenantId, hpassed, h⟩ := bind_eq_ok.mp h
  obtain ⟨hadmin, htenant⟩ := passGate_eq_ok hpassed
  exact ⟨actor, tenantId, hactor, hadmin, htenant, h⟩

/-- A request is refused, or somebody who may send it changes the desk. -/
theorem step_cases (desk : AccessDesk) (call : AccessCall) :
    desk.step call = desk ∨
      ∃ actor tenantId, desk.users[call.actorId]? = some actor ∧
        (call.body.ofSettings = false → actor.account.role = "super_admin") ∧
        call.body.tenant (actor.actor call.actorId) call.xTenantId = .ok tenantId ∧
        desk.handle tenantId call.body = .ok (desk.step call) := by
  unfold step
  split
  · rename_i desk' h
    exact .inr (request_eq_ok h)
  · exact .inl rfl

/-- A request to the settings of a tenant leaves everything but thresholds and approvers. -/
theorem settings_step (desk : AccessDesk) {call : AccessCall}
    (hsettings : call.body.ofSettings = true) :
    ∃ thresholds nextThreshold settings, desk.step call = { desk with
      thresholds := thresholds, nextThreshold := nextThreshold, settings := settings } := by
  obtain hsame | ⟨actor, tenantId, -, -, -, hhandle⟩ := desk.step_cases call
  · exact ⟨desk.thresholds, desk.nextThreshold, desk.settings, hsame⟩
  generalize call.body = r at hsettings hhandle
  generalize desk.step call = desk' at hhandle
  cases r with
  | setOwnApprover approvalType role enabled =>
    obtain ⟨-, -, h⟩ := bind_eq_ok.mp hhandle
    obtain ⟨-, -, h⟩ := bind_eq_ok.mp h
    obtain rfl := Except.ok.inj h
    exact ⟨_, _, _, rfl⟩
  | upsertOwnThreshold scopeType scopeKey thresholdType amount =>
    obtain rfl := Except.ok.inj hhandle
    unfold upsertThreshold
    split <;> exact ⟨_, _, _, rfl⟩
  | deleteOwnThreshold thresholdId =>
    obtain ⟨-, -, h⟩ := bind_eq_ok.mp hhandle
    obtain rfl := Except.ok.inj h
    exact ⟨_, _, _, rfl⟩
  | _ => cases hsettings

end Requests

/-- The override that a request writes, unless it is refused. -/
def written (desk : AccessDesk) (call : AccessCall) : Option RolePermissionOverride :=
  match desk.users[call.actorId]?, call.body with
  | some actor, .setRolePermission roleKey permissionKey granted =>
    match getTenantId (actor.actor call.actorId) call.xTenantId,
      desk.request call.actorId call.xTenantId call.body with
    | .ok tenantId, .ok _ => some ⟨tenantId, roleKey, permissionKey, granted⟩
    | _, _ => none
  | _, _ => none

/-- The overrides that the requests write, in order. -/
def toggles : AccessDesk → List AccessCall → List RolePermissionOverride
  | _, [] => []
  | desk, call :: calls => (desk.written call).toList ++ toggles (desk.step call) calls

theorem overrides_step (desk : AccessDesk) (call : AccessCall) :
    (desk.step call).overrides =
      (desk.written call).toList.foldl KeyTable.write desk.overrides := by
  unfold step written
  split
  · rename_i desk' h
    obtain ⟨actor, tenantId, hactor, -, htenant, hhandle⟩ := request_eq_ok h
    rw [hactor]
    split
    · rename_i found roleKey permissionKey granted hfound hbody
      obtain rfl := Option.some.inj hfound
      rw [hbody] at htenant hhandle h
      have hget : getTenantId (actor.actor call.actorId) call.xTenantId = .ok tenantId := htenant
      rw [hget, hbody, h]
      obtain ⟨-, -, hhandle⟩ := bind_eq_ok.mp hhandle
      obtain ⟨-, -, hhandle⟩ := bind_eq_ok.mp hhandle
      obtain ⟨-, -, hhandle⟩ := bind_eq_ok.mp hhandle
      obtain rfl := Except.ok.inj hhandle
      rfl
    · rename_i hother
      cases handle_change hhandle with
      | permission row htenant hbody hrole hkey => exact absurd hbody (hother actor _ _ _ rfl)
      | _ => rfl
  · rename_i failure h
    split
    · rw [h]
      split <;> simp_all
    · rfl

theorem overrides_run (desk : AccessDesk) (calls : List AccessCall) :
    (run step desk calls).overrides = (desk.toggles calls).foldl KeyTable.write desk.overrides := by
  induction calls generalizing desk with
  | nil => rfl
  | cons call calls ih => rw [run_cons, ih, overrides_step, toggles, List.foldl_append]

theorem written_cases {desk : AccessDesk} {call : AccessCall} {row : RolePermissionOverride}
    (h : desk.written call = some row) :
    call.body = .setRolePermission row.role row.permissionKey row.granted ∧
      row.role ≠ "super_admin" ∧ row.permissionKey ∈ permissions ∧
      ∃ actor, desk.users[call.actorId]? = some actor ∧ actor.account.role = "super_admin" ∧
        getTenantId (actor.actor call.actorId) call.xTenantId = .ok row.tenantId := by
  unfold written at h
  split at h
  · rename_i found roleKey permissionKey granted hfound hbody
    split at h
    · rename_i tenantId desk' htenant hrequest
      obtain rfl := Option.some.inj h
      obtain ⟨actor, _, hactor, hadmin, -, hhandle⟩ := request_eq_ok hrequest
      obtain rfl := Option.some.inj (hfound.symm.trans hactor)
      rw [hbody] at hhandle
      obtain ⟨_, hprotected, hhandle⟩ := bind_eq_ok.mp hhandle
      obtain ⟨_, hkey, -⟩ := bind_eq_ok.mp hhandle
      exact ⟨hbody, refuseIf_eq_ok.mp hprotected, not_not.mp (refuseIf_eq_ok.mp hkey), found,
        hfound, hadmin (by rw [hbody]; rfl), htenant⟩
    · cases h
  · cases h

end AccessDesk

theorem lastOverride_rows (t : KeyTable RolePermissionOverride.key) (tenantId : ℕ)
    (role key : String) :
    lastOverride t.rows tenantId role key = (t.get? (tenantId, role, key)).map (·.granted) := by
  have hrows : t.rows.filter
      (fun r => r.tenantId = tenantId && r.role = role && r.permissionKey = key) =
      t.rows.filter (fun r => r.key = (tenantId, role, key)) := by
    refine List.filter_congr fun r _ => ?_
    simp [RolePermissionOverride.key, Bool.and_assoc]
  rw [lastOverride, hrows, KeyTable.filter_key_eq]
  cases t.get? (tenantId, role, key) <;> rfl

theorem permissionsFor_subset (role : String) : permissionsFor role ⊆ permissions := by
  unfold permissionsFor rolePermissions
  split <;> decide

/-- Whatever a tenant overrides, a role holds permissions of the catalogue alone. -/
theorem effectivePermissions_subset (overrides : List RolePermissionOverride) (tenantId : ℕ)
    (role : String) : effectivePermissions overrides tenantId role ⊆ permissions := by
  unfold effectivePermissions
  split
  · exact List.Subset.refl _
  have hbase := permissionsFor_subset role
  generalize permissionsFor role = perms at hbase
  generalize overrides.filter _ = rows
  induction rows generalizing perms with
  | nil => exact hbase
  | cons row rows ih =>
    refine ih (applyOverride perms row) fun key hkey => ?_
    unfold applyOverride at hkey
    split at hkey
    · exact hbase hkey
    rename_i hknown
    split at hkey
    · obtain rfl | hold := List.mem_insert_iff.mp hkey
      · simpa using hknown
      · exact hbase hold
    · exact hbase (List.mem_of_mem_filter hkey)

/-- Over any requests to the desk, by whomever: a role holds at a tenant what a super admin last
gave it there and not what was last taken from it, and without a word the permissions it held at
the start; that is within the catalogue, and no word is ever about the super admin, who holds all
of it. -/
theorem role_matrix (desk : AccessDesk) (calls : List AccessCall) :
    (∀ tenantId role key,
      key ∈ effectivePermissions (run AccessDesk.step desk calls).overrides.rows tenantId role ↔
        key ∈ permissions ∧ (role = "super_admin" ∨
          (((desk.toggles calls).filter (fun row => row.key = (tenantId, role, key))).getLast?.map
              (·.granted)).getD
            (decide (key ∈ effectivePermissions desk.overrides.rows tenantId role)) = true)) ∧
    ∀ row ∈ desk.toggles calls, row.role ≠ "super_admin" ∧
      ∃ early call later, calls = early ++ call :: later ∧
        call.body = .setRolePermission row.role row.permissionKey row.granted ∧
        ∃ actor, (run AccessDesk.step desk early).users[call.actorId]? = some actor ∧
          actor.account.role = "super_admin" ∧
          getTenantId (actor.actor call.actorId) call.xTenantId = .ok row.tenantId := by
  constructor
  · intro tenantId role key
    by_cases hkey : key ∈ permissions
    swap
    · exact iff_of_false (fun hmem => hkey (effectivePermissions_subset _ _ _ hmem))
        fun hmem => hkey hmem.1
    by_cases hrole : role = "super_admin"
    · simp [hrole, hkey, effectivePermissions]
    rw [mem_effectivePermissions hkey hrole, lastOverride_rows, AccessDesk.overrides_run,
      KeyTable.get?_foldl_write]
    have hstart := @mem_effectivePermissions desk.overrides.rows tenantId _ _ hkey hrole
    rw [lastOverride_rows] at hstart
    simp only [hkey, hrole, true_and, false_or]
    cases hlast : ((desk.toggles calls).filter
        (fun row => row.key = (tenantId, role, key))).getLast? with
    | some row => rfl
    | none => simp [hstart]
  · induction calls generalizing desk with
    | nil => simp [AccessDesk.toggles]
    | cons call calls ih =>
      intro row hrow
      obtain hfirst | hlater := List.mem_append.mp hrow
      · obtain ⟨hbody, hrole, -, hactor⟩ :=
          AccessDesk.written_cases (Option.mem_toList.mp hfirst)
        exact ⟨hrole, [], call, calls, rfl, hbody, hactor⟩
      · obtain ⟨hrole, early, call', later, rfl, hbody, hactor⟩ := ih (desk.step call) row hlater
        exact ⟨hrole, call :: early, call', later, rfl, hbody, hactor⟩

theorem superAdmin_not_assignable : "super_admin" ∉ assignableRoles := by decide

/-- What the users of a desk were, as requests change them. -/
structure AccessDesk.Continues (desk desk' : AccessDesk) : Prop where
  kept : ∀ (i : ℕ) (user : StaffedUser), desk.users[i]? = some user →
    user.account.role = "super_admin" → desk'.users[i]? = some user
  known : ∀ (i : ℕ) (user : StaffedUser), desk'.users[i]? = some user →
    user.account.role = "super_admin" → desk.users[i]? = some user
  stays : ∀ (i : ℕ) (user : StaffedUser), desk.users[i]? = some user →
    ∃ user', desk'.users[i]? = some user' ∧ user.SameLogin user'
  emails : (desk.users.map (·.account.email)).Nodup → (desk'.users.map (·.account.email)).Nodup

namespace AccessDesk

theorem Continues.of_users {desk desk' : AccessDesk} (h : desk'.users = desk.users) :
    desk.Continues desk' where
  kept i user huser _ := h ▸ huser
  known i user huser _ := h ▸ huser
  stays i user huser := ⟨user, h ▸ huser, .refl user⟩
  emails := by rw [h]; exact id

theorem Continues.trans {a b c : AccessDesk} (h : a.Continues b) (h' : b.Continues c) :
    a.Continues c where
  kept i user huser hrole := h'.kept i user (h.kept i user huser hrole) hrole
  known i user huser hrole := h.known i user (h'.known i user huser hrole) hrole
  stays i user huser := by
    obtain ⟨user', huser', hsame⟩ := h.stays i user huser
    obtain ⟨user'', huser'', hsame'⟩ := h'.stays i user' huser'
    exact ⟨user'', huser'', hsame.trans hsame'⟩
  emails hnodup := h'.emails (h.emails hnodup)

theorem Change.continues {desk desk' : AccessDesk} {tenantId : ℕ} {r : AccessRequest}
    (h : desk.Change tenantId r desk') : desk.Continues desk' := by
  cases h with
  | role row htenant hrole => exact .of_users rfl
  | permission row htenant hbody hrole hkey => exact .of_users rfl
  | organises regions branches => exact .of_users rfl
  | limits thresholds nextThreshold hothers => exact .of_users rfl
  | approver row htenant hrole => exact .of_users rfl
  | hires user htenant hrole hemail =>
    have hold : ∀ (i : ℕ) (u : StaffedUser), desk.users[i]? = some u →
        (desk.users ++ [user])[i]? = some u := fun i u hu => by
      rw [List.getElem?_append_left (List.getElem?_eq_some_iff.mp hu).1, hu]
    refine ⟨fun i u hu _ => hold i u hu, fun i u hu hadmin => ?_,
      fun i u hu => ⟨u, hold i u hu, .refl u⟩, fun hnodup => ?_⟩
    · obtain hlt | hle := Nat.lt_or_ge i desk.users.length
      · rwa [List.getElem?_append_left hlt] at hu
      · rw [List.getElem?_append_right hle] at hu
        have hnew : u = user := List.mem_singleton.mp (List.mem_of_getElem? hu)
        rw [hnew] at hadmin
        exact absurd (hadmin ▸ hrole) superAdmin_not_assignable
    · rw [List.map_append, List.nodup_append']
      refine ⟨hnodup, List.nodup_singleton _, fun email hmem hnew => ?_⟩
      obtain ⟨u, hu, rfl⟩ := List.mem_map.mp hmem
      exact hemail u hu (by simpa using hnew)
  | edits userId user edited hrow htenant hrole hedited hlogin =>
    have hset : ∀ i : ℕ, (desk.users.set userId edited)[i]? =
        if userId = i then some edited else desk.users[i]? := fun i => by
      rw [List.getElem?_set]
      split_ifs with hi hlt
      · rfl
      · exact absurd (List.getElem?_eq_some_iff.mp hrow).1 (hi ▸ hlt)
      · rfl
    refine ⟨fun i u hu hadmin => ?_, fun i u hu hadmin => ?_, fun i u hu => ?_, fun hnodup => ?_⟩
    · have hother : userId ≠ i := by
        rintro rfl
        obtain rfl := Option.some.inj (hrow.symm.trans hu)
        exact hrole hadmin
      rw [hset, if_neg hother, hu]
    · have hu' := (hset i).symm.trans hu
      split_ifs at hu' with hi
      · obtain rfl := Option.some.inj hu'
        obtain hsame | hassigned := hedited
        · exact absurd (hsame ▸ hadmin) hrole
        · exact absurd (hadmin ▸ hassigned) superAdmin_not_assignable
      · exact hu'
    · by_cases hi : userId = i
      · subst hi
        obtain rfl := Option.some.inj (hrow.symm.trans hu)
        exact ⟨edited, by rw [hset, if_pos rfl], hlogin⟩
      · exact ⟨u, by rw [hset, if_neg hi, hu], .refl u⟩
    · have hmap : (desk.users.set userId edited).map (·.account.email) =
          desk.users.map (·.account.email) := by
        obtain ⟨hlt, rfl⟩ := List.getElem?_eq_some_iff.mp hrow
        refine List.ext_getElem (by simp) fun i _ _ => ?_
        simp only [List.getElem_map, List.getElem_set]
        split
        next hi =>
          subst hi
          exact hlogin.email
        next => rfl
      rw [hmap]
      exact hnodup

theorem step_continues (desk : AccessDesk) (call : AccessCall) :
    desk.Continues (desk.step call) := by
  obtain hsame | ⟨actor, tenantId, -, -, -, hhandle⟩ := step_cases desk call
  · exact .of_users (by rw [hsame])
  · exact (handle_change hhandle).continues

/-- No request changes who is a super admin. -/
theorem superAdmin_step (desk : AccessDesk) (call : AccessCall) (i : ℕ) :
    ((desk.step call).users[i]?).any (fun u => u.account.role = "super_admin") =
      (desk.users[i]?).any (fun u => u.account.role = "super_admin") := by
  have hstep := desk.step_continues call
  rw [Bool.eq_iff_iff, Option.any_eq_true, Option.any_eq_true]
  constructor
  · rintro ⟨u, hu, hadmin⟩
    exact ⟨u, hstep.known i u hu (by simpa using hadmin), hadmin⟩
  · rintro ⟨u, hu, hadmin⟩
    exact ⟨u, hstep.kept i u hu (by simpa using hadmin), hadmin⟩

end AccessDesk

/-- Over any requests to the desk, by whomever: the super admins stay exactly as they are, nobody
becomes one, no account is lost or moved to another tenant or has its sessions revoked, and no two
accounts come to share an email. Requests of others to access management change nothing at all,
and requests to the settings of a tenant nothing but thresholds and approvers. -/
theorem platform_accounts_kept (desk : AccessDesk) (calls : List AccessCall) :
    desk.Continues (run AccessDesk.step desk calls) ∧
      run AccessDesk.step desk calls = run AccessDesk.step desk (calls.filter (fun call =>
        call.body.ofSettings ||
          (desk.users[call.actorId]?).any (fun u => u.account.role = "super_admin"))) ∧
      ∀ call : AccessCall, call.body.ofSettings = true →
        ∃ thresholds nextThreshold settings, desk.step call = { desk with
          thresholds := thresholds, nextThreshold := nextThreshold, settings := settings } := by
  refine ⟨?_, ?_, fun call => desk.settings_step⟩
  · induction calls generalizing desk with
    | nil => exact .of_users rfl
    | cons call calls ih => exact (desk.step_continues call).trans (ih (desk.step call))
  · induction calls generalizing desk with
    | nil => rfl
    | cons call calls ih =>
      have hsame := ih (desk.step call)
      simp only [AccessDesk.superAdmin_step] at hsame
      rw [run_cons, hsame, List.filter_cons]
      split
      · rfl
      rename_i hother
      simp only [Bool.or_eq_true, not_or, Bool.not_eq_true] at hother
      obtain hrefused | ⟨actor, _, hactor, hadmin, -⟩ := AccessDesk.step_cases desk call
      · rw [hrefused]
      · simp [hactor, hadmin hother.1] at hother

end FinylDcp
