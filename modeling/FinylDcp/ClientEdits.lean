import FinylDcp.Integrations
import FinylDcp.Permissions
import FinylDcp.Runs

/-!
# Client edits by request

A change to a client record is put in as a request, with the tier of approval it needs, and
applied when a second person approves it. The tier says which permission the approver needs;
the body of the request may name it. The routes are behind a module that no tenant can have.
-/
namespace FinylDcp
open Runs

/-- The columns of a client that a request can change. -/
structure ClientRecord where
  tenantId : ℕ
  firstName : Option String
  lastName : Option String
  phone : Option String
  altPhone : Option String
  nationalId : Option String
  dateOfBirth : Option String
  gender : Option String
  deriving DecidableEq, Repr

/-- The value that is asked for: alone, or as the `new_value` of an entry. -/
inductive FieldChange
  | value (v : Option String)
  | entry (newValue : Option String)
  deriving DecidableEq, Repr

def FieldChange.newValue : FieldChange → Option String
  | value v => v
  | entry v => v

inductive EditStatus
  | pending | approved | rejected
  deriving DecidableEq, Repr

structure ClientEditRequest where
  tenantId : ℕ
  clientId : ℕ
  editTier : String
  requestedBy : ℕ
  approvedBy : Option ℕ
  fieldChanges : List (String × FieldChange)
  status : EditStatus
  rejectionReason : Option String
  deriving DecidableEq, Repr

/-- `PRIMARY_FIELDS`. -/
def primaryFields : List String :=
  ["phone", "national_id", "date_of_birth", "dob", "first_name", "last_name"]

/-- `_APPLYABLE`. -/
def applyable : List String :=
  ["first_name", "last_name", "phone", "alt_phone", "national_id", "date_of_birth", "address",
    "occupation", "email", "gender"]

def inferTier (fieldChanges : List (String × FieldChange)) : String :=
  if fieldChanges.any (fun c => primaryFields.contains c.1) then "primary" else "secondary"

namespace ClientRecord

/-- A column by its name. -/
def get (c : ClientRecord) : String → Option String
  | "first_name" => c.firstName
  | "last_name" => c.lastName
  | "phone" => c.phone
  | "alt_phone" => c.altPhone
  | "national_id" => c.nationalId
  | "date_of_birth" => c.dateOfBirth
  | "gender" => c.gender
  | _ => none

/-- Set an attribute; one that is not a column is lost. -/
def set (c : ClientRecord) (field : String) (v : Option String) : ClientRecord :=
  match field with
  | "first_name" => { c with firstName := v }
  | "last_name" => { c with lastName := v }
  | "phone" => { c with phone := v }
  | "alt_phone" => { c with altPhone := v }
  | "national_id" => { c with nationalId := v }
  | "date_of_birth" => { c with dateOfBirth := v }
  | "gender" => { c with gender := v }
  | _ => c

/-- Write the changes of an approved request. -/
def applyChanges (c : ClientRecord) (fieldChanges : List (String × FieldChange)) : ClientRecord :=
  fieldChanges.foldl (fun c change =>
    if applyable.contains change.1 then c.set change.1 change.2.newValue else c) c

end ClientRecord

/-- `MODULE_KEYS`. -/
def moduleKeys : List String :=
  ["lending", "payments", "dashboard", "complaints", "crm", "call_center", "impact",
    "cbk_reporting", "ai_agent"]

/-- The clients, the requests, and the permissions and modules that the tenants turn on and off.
Whatever writes a module of a tenant keeps to the keys there are. -/
structure ClientDesk where
  clients : List ClientRecord
  requests : List ClientEditRequest
  overrides : List RolePermissionOverride
  modules : List TenantModule
  known : ∀ m ∈ modules, m.moduleKey ∈ moduleKeys
  deriving DecidableEq, Repr

/-- No module is turned on or off. -/
theorem no_modules_known : ∀ m ∈ ([] : List TenantModule), m.moduleKey ∈ moduleKeys :=
  List.forall_mem_nil _

/-- The body of a request; a tier that is not sent is the default. -/
structure ClientEditRequestIn where
  editTier : Option String
  fieldChanges : List (String × FieldChange)
  deriving DecidableEq, Repr

/-- `require_module`. -/
def requireModule (modules : List TenantModule) (user : User) (tenantId : ℕ) (moduleKey : String) :
    Except Failure Unit :=
  let row := modules.find? (fun m => m.tenantId = tenantId && m.moduleKey = moduleKey)
  refuseIf (user.role ≠ "super_admin" ∧ !row.any (·.enabled))
    (.http 403 s!"Module '{moduleKey}' is not enabled for this tenant")

namespace ClientDesk

variable (s : ClientDesk)

/-- `create_request`. -/
def createRequest (tenantId clientId requestedBy : ℕ) (fieldChanges : List (String × FieldChange))
    (editTier : String) : Except Failure ClientDesk :=
  if fieldChanges.isEmpty then .error (.valueError "no_changes")
  else
    let tier := if editTier = "" then inferTier fieldChanges else editTier
    let req : ClientEditRequest :=
      { tenantId := tenantId, clientId := clientId, editTier := tier, requestedBy := requestedBy,
        approvedBy := none, fieldChanges := fieldChanges, status := .pending,
          rejectionReason := none }
    .ok { s with requests := s.requests ++ [req] }

/-- The request of a tenant. -/
def requestRow (tenantId requestId : ℕ) : Option ClientEditRequest :=
  (s.requests[requestId]?).filter (fun r => r.tenantId = tenantId)

/-- `approve`: apply the changes and close the request. -/
def approve (tenantId requestId approvedBy : ℕ) : Except Failure ClientDesk :=
  match s.requestRow tenantId requestId with
  | none => .error (.valueError "request_not_found")
  | some req =>
    if req.status ≠ .pending then .error (.valueError "not_pending")
    else
      match (s.clients[req.clientId]?).filter (fun c => c.tenantId = tenantId) with
      | none => .error (.valueError "client_not_found")
      | some client => .ok { s with
          clients := s.clients.set req.clientId (client.applyChanges req.fieldChanges)
          requests := s.requests.modify requestId (fun r => { r with
            status := .approved, approvedBy := some approvedBy }) }

/-- `reject`. -/
def reject (tenantId requestId approvedBy : ℕ) (reason : String) : Except Failure ClientDesk :=
  match s.requestRow tenantId requestId with
  | none => .error (.valueError "request_not_found")
  | some req =>
    if req.status ≠ .pending then .error (.valueError "not_pending")
    else .ok { s with
      requests := s.requests.modify requestId (fun r => { r with
        status := .rejected, approvedBy := some approvedBy, rejectionReason := some reason }) }

/-- A value error of the service is a 400. -/
def asBadRequest {α : Type} : Except Failure α → Except Failure α
  | .error (.valueError message) => .error (.http 400 message)
  | out => out

/-- The tenant of a request, where the user may use the module. -/
def enter (user : User) (xTenantId : Option ℕ) : Except Failure ℕ := do
  let tenantId ← getTenantId user xTenantId
  requireModule s.modules user tenantId "clients"
  return tenantId

/-- `POST /clients/{id}/edit-request`. -/
def createEditRequest (user : User) (xTenantId : Option ℕ) (clientId : ℕ)
    (body : ClientEditRequestIn) : Except Failure ClientDesk := do
  let tenantId ← s.enter user xTenantId
  requirePermission s.overrides user "client_edits.request"
  refuseIf (((s.clients[clientId]?).filter (fun c => c.tenantId = tenantId)).isNone)
    (.http 404 "Client not found")
  asBadRequest (s.createRequest tenantId clientId user.id body.fieldChanges
    (body.editTier.getD "secondary"))

/-- `_assert_can_approve`. -/
def assertCanApprove (user : User) (tier : String) : Except Failure Unit :=
  let needed := if tier = "primary" then "client_edits.approve_primary"
    else "client_edits.approve_secondary"
  refuseIf (user.role ≠ "super_admin" ∧
      needed ∉ effectivePermissions s.overrides user.tenantId user.role)
    (.http 403 s!"Missing required permission: {needed}")

/-- `POST /clients/edit-requests/{id}/approve`. -/
def approveEditRequest (user : User) (xTenantId : Option ℕ) (requestId : ℕ) :
    Except Failure ClientDesk := do
  let tenantId ← s.enter user xTenantId
  match s.requestRow tenantId requestId with
  | none => .error (.http 404 "Edit request not found")
  | some req =>
    s.assertCanApprove user req.editTier
    asBadRequest (s.approve tenantId requestId user.id)

/-- `POST /clients/edit-requests/{id}/reject`. -/
def rejectEditRequest (user : User) (xTenantId : Option ℕ) (requestId : ℕ) (reason : String) :
    Except Failure ClientDesk := do
  let tenantId ← s.enter user xTenantId
  match s.requestRow tenantId requestId with
  | none => .error (.http 404 "Edit request not found")
  | some req =>
    s.assertCanApprove user req.editTier
    asBadRequest (s.reject tenantId requestId user.id reason)

end ClientDesk

/-- What happens at the desk. A tenant can change its permissions and modules at any time. -/
inductive ClientEditEvent
  | request (user : User) (xTenantId : Option ℕ) (clientId : ℕ) (body : ClientEditRequestIn)
  | approve (user : User) (xTenantId : Option ℕ) (requestId : ℕ)
  | reject (user : User) (xTenantId : Option ℕ) (requestId : ℕ) (reason : String)
  | permissions (overrides : List RolePermissionOverride)
  | modules (modules : List TenantModule) (known : ∀ m ∈ modules, m.moduleKey ∈ moduleKeys)
  deriving DecidableEq, Repr

namespace ClientDesk

/-- A request that fails changes nothing. -/
def saved (s : ClientDesk) : Except Failure ClientDesk → ClientDesk
  | .ok s' => s'
  | .error _ => s

def step (s : ClientDesk) : ClientEditEvent → ClientDesk
  | .request user xTenantId clientId body =>
      s.saved (s.createEditRequest user xTenantId clientId body)
  | .approve user xTenantId requestId => s.saved (s.approveEditRequest user xTenantId requestId)
  | .reject user xTenantId requestId reason =>
    s.saved (s.rejectEditRequest user xTenantId requestId reason)
  | .permissions overrides => { s with overrides := overrides }
  | .modules modules known => { s with modules := modules, known := known }

/-- A column of a client row. -/
def column (s : ClientDesk) (clientId : ℕ) (field : String) : Option String :=
  (s.clients[clientId]?).bind (·.get field)

end ClientDesk

theorem ClientRecord.get_set {f g : String} (h : f ≠ g) (c : ClientRecord) (v : Option String) :
    (c.set f v).get g = c.get g := by
  unfold ClientRecord.set
  split <;> unfold ClientRecord.get <;> split <;> simp_all

namespace ClientDesk

variable {s s' : ClientDesk} {user : User} {xTenantId : Option ℕ} {requestId : ℕ}

theorem asBadRequest_eq_ok {α : Type} {x : Except Failure α} {a : α} :
    asBadRequest x = .ok a ↔ x = .ok a := by
  cases x with
  | ok b => rfl
  | error failure => cases failure <;> simp [asBadRequest]

/-- No tenant can have the module, so only the super admins get in. -/
theorem enter_eq_ok {tenantId : ℕ} :
    s.enter user xTenantId = .ok tenantId ↔
      user.role = "super_admin" ∧ getTenantId user xTenantId = .ok tenantId := by
  have hmodule : ∀ id, requireModule s.modules user id "clients" = .ok () ↔
      user.role = "super_admin" := by
    intro id
    have hnone : s.modules.find? (fun m => m.tenantId = id && m.moduleKey = "clients") = none := by
      rw [List.find?_eq_none]
      intro m hmem hm
      simp only [Bool.and_eq_true, decide_eq_true_eq] at hm
      have hknown := s.known m hmem
      rw [hm.2] at hknown
      exact absurd hknown (by decide)
    rw [requireModule, hnone, refuseIf_eq_ok]
    simp
  constructor
  · intro h
    obtain ⟨id, hid, h⟩ := bind_eq_ok.mp h
    obtain ⟨_, hrole, h⟩ := bind_eq_ok.mp h
    obtain rfl := Except.ok.inj h
    exact ⟨(hmodule id).mp hrole, hid⟩
  · rintro ⟨hrole, htenant⟩
    exact bind_eq_ok.mpr ⟨tenantId, htenant, bind_eq_ok.mpr ⟨(), (hmodule tenantId).mpr hrole, rfl⟩⟩

/-- An approval is of a pending request, by a super admin; it writes the request's changes to its
client and closes it. -/
theorem approveEditRequest_eq_ok :
    s.approveEditRequest user xTenantId requestId = .ok s' ↔
    ∃ req client, s.requests[requestId]? = some req ∧ req.status = .pending ∧
      user.role = "super_admin" ∧ getTenantId user xTenantId = .ok req.tenantId ∧
      s.clients[req.clientId]? = some client ∧ client.tenantId = req.tenantId ∧
      s' = { s with
        clients := s.clients.set req.clientId (client.applyChanges req.fieldChanges)
        requests := s.requests.modify requestId (fun r => { r with
          status := .approved, approvedBy := some user.id }) } := by
  constructor
  · intro h
    obtain ⟨tenantId, henter, h⟩ := bind_eq_ok.mp h
    obtain ⟨hrole, htenant⟩ := enter_eq_ok.mp henter
    split at h
    · cases h
    rename_i req hreq
    obtain ⟨u, -, h⟩ := bind_eq_ok.mp h
    have happroved := asBadRequest_eq_ok.mp h
    simp only [approve, hreq] at happroved
    split at happroved
    · cases happroved
    rename_i hpending
    split at happroved
    · cases happroved
    rename_i client hclient
    obtain ⟨hrow, hown⟩ := Option.filter_eq_some_iff.mp hreq
    obtain ⟨hclientRow, hsame⟩ := Option.filter_eq_some_iff.mp hclient
    obtain rfl : req.tenantId = tenantId := by simpa using hown
    exact ⟨req, client, hrow, not_not.mp hpending, hrole, htenant, hclientRow, by simpa using hsame,
      (Except.ok.inj happroved).symm⟩
  · rintro ⟨req, client, hrow, hpending, hrole, htenant, hclient, hsame, rfl⟩
    have hreq : s.requestRow req.tenantId requestId = some req := by
      simp [requestRow, hrow]
    refine bind_eq_ok.mpr ⟨req.tenantId, enter_eq_ok.mpr ⟨hrole, htenant⟩, ?_⟩
    simp only [hreq]
    refine bind_eq_ok.mpr ⟨(), ?_, asBadRequest_eq_ok.mpr ?_⟩
    · exact refuseIf_eq_ok.mpr fun hrefused => hrefused.1 hrole
    · simp [approve, hreq, hpending, hclient, Option.filter_some, hsame]

theorem rejectEditRequest_eq_ok {reason : String}
    (h : s.rejectEditRequest user xTenantId requestId reason = .ok s') :
    s' = { s with requests := s.requests.modify requestId (fun r => { r with
      status := .rejected, approvedBy := some user.id, rejectionReason := some reason }) } := by
  obtain ⟨tenantId, -, h⟩ := bind_eq_ok.mp h
  split at h
  · cases h
  rename_i req hreq
  obtain ⟨-, -, h⟩ := bind_eq_ok.mp h
  have hrejected := asBadRequest_eq_ok.mp h
  simp only [reject, hreq] at hrejected
  split at hrejected
  · cases hrejected
  · exact (Except.ok.inj hrejected).symm

theorem createEditRequest_eq_ok {clientId : ℕ} {body : ClientEditRequestIn}
    (h : s.createEditRequest user xTenantId clientId body = .ok s') :
    ∃ req, req.status = .pending ∧ s' = { s with requests := s.requests ++ [req] } := by
  obtain ⟨tenantId, -, h⟩ := bind_eq_ok.mp h
  obtain ⟨-, -, h⟩ := bind_eq_ok.mp h
  obtain ⟨-, -, h⟩ := bind_eq_ok.mp h
  have hcreated := asBadRequest_eq_ok.mp h
  simp only [createRequest] at hcreated
  split at hcreated
  · cases hcreated
  · exact ⟨_, rfl, (Except.ok.inj hcreated).symm⟩

/-- What a step may do: approve no request for the one who put it in, and change a primary
column only by an approval of a user with the permission for it. -/
structure Proper (s : ClientDesk) (e : ClientEditEvent) : Prop where
  notOwn : ∀ (id : ℕ) (req req' : ClientEditRequest), s.requests[id]? = some req →
    (s.step e).requests[id]? = some req' → req.status = .pending → req'.status = .approved →
    req'.approvedBy ≠ some req.requestedBy
  entitled : ∀ (clientId : ℕ) (field : String), field ∈ primaryFields →
    (s.step e).column clientId field ≠ s.column clientId field →
    ∃ user xTenantId id, e = .approve user xTenantId id ∧
      "client_edits.approve_primary" ∈ effectivePermissions s.overrides user.tenantId user.role

/-- The super admin who approves a pending request of the tenant did not put it in. -/
def Careful (s : ClientDesk) : ClientEditEvent → Prop
  | .approve user xTenantId id => ∀ req ∈ s.requests[id]?, req.status = .pending →
      user.role = "super_admin" → getTenantId user xTenantId = .ok req.tenantId →
      (s.clients[req.clientId]?).any (fun c => c.tenantId = req.tenantId) = true →
      req.requestedBy ≠ user.id
  | _ => True

/-- Where neither the requests' approvals nor the clients change, nothing improper happens. -/
theorem Proper.of_quiet {e : ClientEditEvent} (hclients : (s.step e).clients = s.clients)
    (hrequests : ∀ (id : ℕ) (req req' : ClientEditRequest), s.requests[id]? = some req →
      (s.step e).requests[id]? = some req' → req.status = .pending → req'.status ≠ .approved) :
    Proper s e where
  notOwn id req req' hreq hreq' hpending happroved := absurd happroved
    (hrequests id req req' hreq hreq'
    hpending)
  entitled clientId field _ hchanged := by
    simp only [column, hclients] at hchanged
    exact absurd rfl hchanged

theorem Proper.of_refused {e : ClientEditEvent} (h : s.step e = s) : Proper s e := by
  refine .of_quiet (by rw [h]) fun id req req' hreq hreq' hpending => ?_
  rw [h] at hreq'
  obtain rfl := Option.some.inj (hreq.symm.trans hreq')
  simp [hpending]

/-- An approval that goes through is proper exactly if it is by another super admin. -/
theorem proper_approve_iff (h : s.approveEditRequest user xTenantId requestId = .ok s') :
    Proper s (.approve user xTenantId requestId) ↔
      ∀ req ∈ s.requests[requestId]?, req.requestedBy ≠ user.id := by
  have hstep : s.step (.approve user xTenantId requestId) = s' := by simp [step, h, saved]
  obtain ⟨req, client, hreq, hpending, hrole, htenant, hclient, hsame, rfl⟩ :=
    approveEditRequest_eq_ok.mp h
  constructor
  · intro hproper found hfound hown
    obtain rfl := Option.some.inj (hreq.symm.trans hfound)
    refine hproper.notOwn requestId req
      { req with status := .approved, approvedBy := some user.id } hreq ?_ hpending rfl ?_
    · rw [hstep, List.getElem?_modify, hreq]
      simp
    · rw [hown]
  · intro hother
    constructor
    · intro id old new hold hnew hwaits happroved
      rw [hstep, List.getElem?_modify, hold] at hnew
      obtain rfl := Option.some.inj hnew
      by_cases hid : requestId = id
      · subst hid
        simpa using fun hsame => hother old hold hsame.symm
      · simp [hid, hwaits] at happroved
    · intro clientId field hfield hchanged
      refine ⟨user, xTenantId, requestId, rfl, ?_⟩
      rw [effectivePermissions, if_pos hrole]
      decide

/-- The step lemma: a step is proper exactly if it is careful. -/
theorem proper_step_iff {e : ClientEditEvent} : Proper s e ↔ s.Careful e := by
  cases e with
  | permissions overrides =>
    refine iff_of_true (.of_quiet rfl fun id req req' hreq hreq' hpending => ?_) trivial
    obtain rfl := Option.some.inj (hreq.symm.trans hreq')
    simp [hpending]
  | modules modules known =>
    refine iff_of_true (.of_quiet rfl fun id req req' hreq hreq' hpending => ?_) trivial
    obtain rfl := Option.some.inj (hreq.symm.trans hreq')
    simp [hpending]
  | request user xTenantId clientId body =>
    refine iff_of_true ?_ trivial
    cases hout : s.createEditRequest user xTenantId clientId body with
    | error failure => exact .of_refused (by simp [step, hout, saved])
    | ok s' =>
      have hstep : s.step (.request user xTenantId clientId body) = s' := by
        simp [step, hout, saved]
      obtain ⟨new, hnew, rfl⟩ := createEditRequest_eq_ok hout
      refine .of_quiet (by rw [hstep]) fun id req req' hreq hreq' hpending => ?_
      rw [hstep, List.getElem?_append_left (List.getElem?_eq_some_iff.mp hreq).1, hreq] at hreq'
      obtain rfl := Option.some.inj hreq'
      simp [hpending]
  | reject user xTenantId requestId reason =>
    refine iff_of_true ?_ trivial
    cases hout : s.rejectEditRequest user xTenantId requestId reason with
    | error failure => exact .of_refused (by simp [step, hout, saved])
    | ok s' =>
      have hstep : s.step (.reject user xTenantId requestId reason) = s' := by
        simp [step, hout, saved]
      obtain rfl := rejectEditRequest_eq_ok hout
      refine .of_quiet (by rw [hstep]) fun id req req' hreq hreq' hpending => ?_
      rw [hstep, List.getElem?_modify, hreq] at hreq'
      obtain rfl := Option.some.inj hreq'
      dsimp only
      split <;> simp [hpending]
  | approve user xTenantId requestId =>
    cases hout : s.approveEditRequest user xTenantId requestId with
    | error failure =>
      refine iff_of_true (.of_refused (by simp [step, hout, saved])) ?_
      intro req hreq hpending hrole htenant hclient
      obtain ⟨client, hrow, hsame⟩ := (Option.any_eq_true _ _).mp hclient
      have hok := approveEditRequest_eq_ok.mpr ⟨req, client, hreq, hpending, hrole, htenant, hrow,
        by simpa using hsame, rfl⟩
      rw [hout] at hok
      cases hok
    | ok s' =>
      rw [proper_approve_iff hout]
      obtain ⟨req, client, hreq, hpending, hrole, htenant, hrow, hsame, -⟩ :=
        approveEditRequest_eq_ok.mp hout
      constructor
      · intro hother found hfound _ _ _ _
        exact hother found hfound
      · intro hcareful found hfound
        obtain rfl := Option.some.inj (hreq.symm.trans hfound)
        exact hcareful req hreq hpending hrole htenant (by simp [hrow, hsame])

/-- Over a run, every step is proper exactly if every approval is by another super admin than the
one who put the request in. -/
theorem client_edits_proper (start : ClientDesk) (events : List ClientEditEvent) :
    AllSteps step Proper start events ↔ AllSteps step Careful start events := by
  induction events generalizing start with
  | nil => rfl
  | cons e events ih => exact and_congr proper_step_iff (ih (start.step e))

/-- A tenant with one client. -/
def platformDesk : ClientDesk where
  clients := [⟨1, some "Asha", some "Otieno", some "254700000001", none, some "11112222",
    some "1990-01-01", none⟩]
  requests := []
  overrides := []
  modules := [⟨1, "lending", true⟩]
  known := by decide

/-- A super admin's request for a new phone number of the client. -/
def newPhone (userId : ℕ) : ClientEditEvent :=
  .request ⟨userId, 0, "super_admin"⟩ (some 1) 0
    ⟨none, [("phone", .entry (some "254799999999"))]⟩

/-- One super admin asks for the change and approves it. -/
def adminAlone : List ClientEditEvent :=
  [newPhone 7, .approve ⟨7, 0, "super_admin"⟩ (some 1) 0]

/-- The phone number is changed by one person. -/
theorem admin_changes_phone : ¬ AllSteps step Proper platformDesk adminAlone ∧
    (run step platformDesk adminAlone).requests.map
      (fun r => (r.requestedBy, r.approvedBy, r.status)) = [(7, some 7, .approved)] ∧
    platformDesk.column 0 "phone" = some "254700000001" ∧
    (run step platformDesk adminAlone).column 0 "phone" = some "254799999999" := by
  refine ⟨?_, by decide, by decide, by decide⟩
  rintro ⟨-, happroved, -⟩
  exact happroved.notOwn 0 _ _ rfl rfl rfl rfl rfl

end ClientDesk

end FinylDcp
