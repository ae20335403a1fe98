import FinylDcp.BorrowerLocks
import FinylDcp.ClientEdits

/-!
# Direct updates of client records

Two routes write a client record at once. Both refuse to change a locked field while the
borrower is locked, or has a loan that a query of their own counts as active.
-/
namespace FinylDcp
open Tables

/-- What a form sends of a client record. -/
structure ClientCreate where
  nationalId : String
  phone : Option String
  firstName : String
  lastName : String
  dateOfBirth : Option String
  gender : Option String
  deriving DecidableEq, Repr

/-- `LOCKED_FIELDS`. -/
def lockedFields : List String := ["phone", "national_id", "date_of_birth"]

namespace ClientCreate

/-- A field by its name. -/
def get (body : ClientCreate) : String → Option String
  | "national_id" => some body.nationalId
  | "phone" => body.phone
  | "first_name" => some body.firstName
  | "last_name" => some body.lastName
  | "date_of_birth" => body.dateOfBirth
  | "gender" => body.gender
  | _ => none

/-- The locked fields that the form changes; an empty value is one that is absent. -/
def changedLocked (body : ClientCreate) (client : ClientRecord) : List String :=
  lockedFields.filter (fun f => (body.get f).getD "" ≠ (client.get f).getD "")

end ClientCreate

/-- `_apply_scalars`. -/
def ClientRecord.applyScalars (client : ClientRecord) (body : ClientCreate) : ClientRecord :=
  { client with
    nationalId := some body.nationalId
    phone := body.phone
    firstName := some body.firstName
    lastName := some body.lastName
    dateOfBirth := body.dateOfBirth
    gender := body.gender }

/-- `has_active_loan`. -/
def hasActiveLoan (db : Db) (tenantId clientId : ℕ) : Bool :=
  db.loans.any (fun l => l.tenantId = tenantId && l.borrowerId = clientId && l.status.keepsLock)

/-- Who edits: the user, whether the tenant has the lending module, and whether the client is
in the data scope. -/
structure ClientEditor where
  user : User
  xTenantId : Option ℕ
  lending : Bool
  seesClient : Bool
  deriving DecidableEq, Repr

/-- `require_module("lending")`. -/
def ClientEditor.requireLending (editor : ClientEditor) : Except Failure ℕ := do
  let tenantId ← getTenantId editor.user editor.xTenantId
  refuseIf (editor.user.role ≠ "super_admin" ∧ !editor.lending)
    (.http 403 "Module 'lending' is not enabled for this tenant")
  return tenantId

/-- `user_can`. -/
def userCan (overrides : List RolePermissionOverride) (user : User) (key : String) : Bool :=
  user.role = "super_admin" || (effectivePermissions overrides user.tenantId user.role).contains key

/-- The loan book, and the records of its borrowers: row by row the same people. -/
structure Registry where
  db : Db
  desk : ClientDesk

namespace Registry

variable (s : Registry)

/-- The record of a client of the tenant. -/
def client (tenantId clientId : ℕ) : Option ClientRecord :=
  (s.desk.clients[clientId]?).filter (fun c => c.tenantId = tenantId)

/-- The record is locked, or an active loan counts as a lock. -/
def recordLocked (tenantId clientId : ℕ) : Bool :=
  (s.db.borrowers[clientId]?).any (·.editLocked) || hasActiveLoan s.db tenantId clientId

/-- Commit a record; its phone is the one that payouts go to, and must not be null. -/
def save (clientId : ℕ) (record : ClientRecord) : Except Failure Registry :=
  match record.phone with
  | none => .error (.integrity "borrowers.phone")
  | some phone => .ok
    { db := { s.db with
        borrowers := s.db.borrowers.modify clientId (fun b => { b with phone := phone }) }
      desk := { s.desk with clients := s.desk.clients.set clientId record } }

/-- `PUT /clients/{id}`. The lock comes first, and the permission is that of the role. -/
def updateClient (editor : ClientEditor) (clientId : ℕ) (body : ClientCreate) :
    Except Failure Registry := do
  let tenantId ← editor.requireLending
  requirePermission s.desk.overrides editor.user "clients.edit"
  match s.client tenantId clientId with
  | none => .error (.http 404 "Client not found")
  | some client =>
    refuseIf (!editor.seesClient) (.http 403 "Client is outside your data scope")
    let changed := body.changedLocked client
    let fields := ", ".intercalate changed
    refuseIf (changed ≠ [] ∧ s.recordLocked tenantId clientId) (.http 409
      (s!"This client is edit-locked (active loan). Locked field(s) {fields} must be changed " ++
        "via an approved edit request (POST /clients/\x7bid\x7d/edit-request)."))
    refuseIf (changed ≠ [] ∧ !hasPermission editor.user.role "clients.edit_locked") (.http 422
      s!"You are not permitted to change locked field(s): {fields}. Ask a branch manager.")
    s.save clientId (client.applyScalars body)

/-- `PUT /lending/borrowers/{id}`. The permission comes first and is the tenant's, the region
and the branch of the form are the tenant's, and the form always has a phone. -/
def updateBorrower (editor : ClientEditor) (clientId : ℕ) (references : Except Failure Unit)
    (body : ClientCreate) : Except Failure Registry := do
  let tenantId ← editor.requireLending
  requirePermission s.desk.overrides editor.user "clients.edit"
  match s.client tenantId clientId with
  | none => .error (.http 404 "Client not found")
  | some client =>
    refuseIf (!editor.seesClient) (.http 403 "Client is outside your data scope")
    references
    let changed := body.changedLocked client
    let fields := ", ".intercalate changed
    refuseIf (changed ≠ [] ∧ !userCan s.desk.overrides editor.user "clients.edit_locked") (.http 422
      s!"You are not permitted to change locked field(s): {fields}")
    refuseIf (changed ≠ [] ∧ s.recordLocked tenantId clientId) (.http 409
      (s!"Borrower is edit-locked (active loan). Locked field(s) {fields} require " ++
        "an approved edit request."))
    s.save clientId (client.applyScalars body)

/-- An update of a record that went through: it changes no locked field of a locked record. -/
def Updated (clientId : ℕ) (body : ClientCreate) (s' : Registry) : Prop :=
  ∃ tenantId client, s.client tenantId clientId = some client ∧
    (body.changedLocked client ≠ [] → s.recordLocked tenantId clientId = false) ∧
    s.save clientId (client.applyScalars body) = .ok s'

variable {s} {s' : Registry} {editor : ClientEditor} {clientId : ℕ} {body : ClientCreate}

theorem updateClient_updated (h : s.updateClient editor clientId body = .ok s') :
    s.Updated clientId body s' := by
  obtain ⟨tenantId, -, h⟩ := bind_eq_ok.mp h
  obtain ⟨-, -, h⟩ := bind_eq_ok.mp h
  split at h
  · cases h
  rename_i client hclient
  obtain ⟨-, -, h⟩ := bind_eq_ok.mp h
  obtain ⟨u, hlocked, h⟩ := bind_eq_ok.mp h
  obtain ⟨-, -, h⟩ := bind_eq_ok.mp h
  have hfree := refuseIf_eq_ok.mp hlocked
  exact ⟨tenantId, client, hclient, fun hchanged => by simpa [hchanged] using hfree, h⟩

theorem updateBorrower_updated {references : Except Failure Unit}
    (h : s.updateBorrower editor clientId references body = .ok s') :
    s.Updated clientId body s' := by
  obtain ⟨tenantId, -, h⟩ := bind_eq_ok.mp h
  obtain ⟨-, -, h⟩ := bind_eq_ok.mp h
  split at h
  · cases h
  rename_i client hclient
  obtain ⟨-, -, h⟩ := bind_eq_ok.mp h
  obtain ⟨-, -, h⟩ := bind_eq_ok.mp h
  obtain ⟨-, -, h⟩ := bind_eq_ok.mp h
  obtain ⟨u, hlocked, h⟩ := bind_eq_ok.mp h
  have hfree := refuseIf_eq_ok.mp hlocked
  exact ⟨tenantId, client, hclient, fun hchanged => by simpa [hchanged] using hfree, h⟩

/-- A commit writes one record, and the phone of its borrower. -/
theorem save_eq_ok {record : ClientRecord} (h : s.save clientId record = .ok s') :
    ∃ phone, s' =
      { db := { s.db with
          borrowers := s.db.borrowers.modify clientId (fun b => { b with phone := phone }) }
        desk := { s.desk with clients := s.desk.clients.set clientId record } } := by
  simp only [save] at h
  split at h
  · cases h
  · exact ⟨_, (Except.ok.inj h).symm⟩

end Registry

/-- What a form leaves of the locked fields where it changes none. -/
theorem ClientCreate.keeps_locked {body : ClientCreate} {client : ClientRecord}
    (h : body.changedLocked client = []) {field : String} (hfield : field ∈ lockedFields) :
    ((client.applyScalars body).get field).getD "" = (client.get field).getD "" := by
  have hsame := List.filter_eq_nil_iff.mp h field hfield
  simp only [ne_eq, decide_not, Bool.not_eq_true', decide_eq_false_iff_not, not_not] at hsame
  rw [← hsame]
  simp only [lockedFields, List.mem_cons, List.not_mem_nil, or_false] at hfield
  obtain rfl | rfl | rfl := hfield <;> rfl

end FinylDcp
