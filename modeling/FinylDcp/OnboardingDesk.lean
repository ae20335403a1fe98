import FinylDcp.CheckDigits
import FinylDcp.ClientUpdates
import FinylDcp.KycDecisions
import FinylDcp.LoanAuthority
import FinylDcp.PromiseReminders

/-!
# Onboarding

How a client comes into the books: registered by an officer or at a branch, or as a lead that a
branch manager lets through. A profile waits for an approver, unless whoever registers it could
approve it, and only an approved client applies for loans.
-/
namespace FinylDcp
open Calendar Tables Text

/-- What a form sends of a client. -/
structure OnboardingForm where
  nationalId : String
  phone : Option String
  firstName : String
  lastName : String
  dateOfBirth : Option Date
  gender : Option String
  regionId : Option ℕ
  branchId : Option ℕ
  businessSector : Option String
  onboardedBy : Option String

/-- The part of a form that goes into the client record. -/
def OnboardingForm.record (body : OnboardingForm) : ClientCreate where
  nationalId := body.nationalId
  phone := body.phone
  firstName := body.firstName
  lastName := body.lastName
  dateOfBirth := body.dateOfBirth.map isoDate
  gender := body.gender

/-- The columns of a client that its registration and its approval write, beside the record, the
place and the status of the profile. -/
structure ClientFile where
  regionId : Option ℕ
  businessSector : Option String
  kycStatus : String
  onboardedBy : Option String
  dateOfBirthVerified : Bool
  approvedByUserId : Option ℕ
  deriving DecidableEq, Repr

/-- What a branch manager made of a lead. -/
inductive BmApproval
  | approved | rejected
  deriving DecidableEq, Repr

structure CrmLead where
  tenantId : ℕ
  name : String
  phone : Option String
  sector : Option String
  regionId : Option ℕ
  stage : String
  stageDetail : String
  assignedStaffId : Option ℕ
  estimatedLoanAmount : ℤ
  bmApprovalStatus : Option BmApproval
  bmApprovedBy : Option ℕ
  bmApprovedAt : Option ℤ
  bmRejectionReason : Option String
  convertedToClientId : Option ℕ
  conversionTriggeredAt : Option ℤ
  conversionValidations : Option KycDecision
  deriving DecidableEq

structure LeadCreate where
  name : String
  phone : Option String
  sector : Option String
  regionId : Option ℕ
  stage : String
  assignedStaffId : Option ℕ
  estimatedLoanAmount : ℤ
  deriving DecidableEq, Repr

/-- What the KYC engine reads beside the client: the preferences of the tenant, the tables and the
day. -/
structure KycInputs where
  prefs : Option TenantValidationPrefs
  book : KycBook
  today : Date

/-- The decision on a new client, of whom nothing is validated yet; none where it raises. -/
def KycInputs.decision (kyc : KycInputs) (tenantId clientId : ℕ) (dateOfBirth : Option Date) :
    Option KycDecision :=
  (evaluateRow kyc.prefs kyc.book tenantId clientId kyc.today
    (some ⟨tenantId, dateOfBirth, false, false⟩)).toOption

/-- `CRM_STAGES`. -/
def crmStages : List String := ["lead", "contacted", "field_visit", "app_setup", "disbursed"]

/-- `LEAD_TEMPERATURES`. -/
def leadTemperatures : List String := ["cold", "warm", "hot"]

/-- The words of a text between its blanks. -/
def splitBlanks (s : String) : List String :=
  ((s.toList.splitOnP isSpace).filter (· ≠ [])).map String.ofList

/-- The first and the last name that the one name of a lead is split into. -/
def splitName (name : String) : String × String :=
  match splitBlanks name with
  | [] => ("Unknown", "Unknown")
  | [first] => (first, first)
  | first :: rest => (first, " ".intercalate rest)

/-- The books of the tenants with their clients and leads. Row by row the borrowers of the loan
book, their profiles, places, records and files are the same people. -/
structure OnboardingDesk where
  credit : CreditDesk
  records : List ClientRecord
  files : List ClientFile
  leads : List CrmLead

namespace OnboardingDesk

variable (desk : OnboardingDesk)

def borrowers : List Borrower := desk.credit.db.borrowers

/-- The status of a client's profile. -/
def profileStatus (clientId : ℕ) : Option String :=
  (desk.credit.catalogue.profiles[clientId]?).map (·.status)

/-- Who approved a client. -/
def approvedBy (clientId : ℕ) : Option ℕ := (desk.files[clientId]?).bind (·.approvedByUserId)

/-- `_ORIGINATOR_ROLES`. -/
def originatorRoles : List String := ["relationship_officer", "loan_officer"]

/-- `initial_profile_state`: the status of a new profile, and the officer who owns it. -/
def initialProfileState (userId : ℕ) (user : StaffedUser) : Except Failure (String × Option ℕ) :=
  let role := user.account.role
  if originatorRoles.contains role || officerScopeRoles.contains role then
    match user.staffId with
    | none => .error (.http 403 ("Your account is not linked to a staff record, so you cannot " ++
        "onboard clients. Ask an administrator to link it."))
    | some staffId => .ok ("pending_approval", some staffId)
  else if userCan desk.credit.access.overrides.rows (user.actor userId) "clients.approve" then
    .ok ("approved", none)
  else .ok ("pending_approval", none)

/-- Another client of the tenant has the number. -/
def numberTaken (tenantId : ℕ) (number : String) : Bool :=
  desk.borrowers.any (fun b => b.tenantId = tenantId && b.customerNumber = some number)

/-- Insert a client: `_assign_customer_number` gives it its number, and its phone must not be
null. -/
def insertClient (record : ClientRecord) (status : String) (place : ClientPlacement)
    (file : ClientFile) (draws : Fin 50 → Fin 900000) : Except Failure OnboardingDesk :=
  match generateUnique (desk.numberTaken record.tenantId) draws, record.phone with
  | none, _ => .error (.crash "RuntimeError")
  | some _, none => .error (.integrity "borrowers.phone")
  | some number, some phone =>
    let borrower : Borrower :=
      { tenantId := record.tenantId
        phone := phone
        customerNumber := some number
        editLocked := false
        editLockedReason := none }
    .ok { desk with
      credit := { desk.credit with
        db := { desk.credit.db with borrowers := desk.borrowers ++ [borrower] }
        catalogue := { desk.credit.catalogue with
          profiles := desk.credit.catalogue.profiles ++ [⟨status, []⟩] }
        clients := desk.credit.clients ++ [place] }
      records := desk.records ++ [record]
      files := desk.files ++ [file] }

/-- `MIN_ONBOARDING_AGE`. -/
def minOnboardingAge : ℤ := 18

/-- A client that a user registers: of age, as far as the form says, with the references of the
form and a status and an owner from the user. -/
def registerClient (userId : ℕ) (user : StaffedUser) (tenantId : ℕ) (body : OnboardingForm)
    (today : Date) (references : Except Failure Unit) (onboardedBy : String)
    (draws : Fin 50 → Fin 900000) : Except Failure OnboardingDesk := do
  let age := body.dateOfBirth.map (ageYears today)
  let years := age.getD 0
  refuseIf (age.any (· < minOnboardingAge)) (.http 422
    s!"Applicant must be at least {minOnboardingAge} years old (computed age: {years}).")
  references
  let (status, officer) ← desk.initialProfileState userId user
  let blank : ClientRecord := ⟨tenantId, none, none, none, none, none, none, none⟩
  let file : ClientFile :=
    { regionId := body.regionId
      businessSector := body.businessSector
      kycStatus := "draft"
      onboardedBy := some onboardedBy
      dateOfBirthVerified := age.isSome
      approvedByUserId := none }
  desk.insertClient (blank.applyScalars body.record) status ⟨officer, body.branchId⟩ file draws

/-- `POST /clients`. -/
def createClient (caller : Caller) (lendingEnabled : Bool) (body : OnboardingForm) (today : Date)
    (draws : Fin 50 → Fin 900000) : Except Failure OnboardingDesk := do
  let (user, tenantId) ←
    desk.credit.authorise caller [("lending", lendingEnabled)] "clients.create"
  desk.registerClient caller.actorId user tenantId body today (.ok ())
    ((nonEmpty body.onboardedBy).getD user.fullName) draws

/-- The region and the branch of a form are the tenant's, where it has them. -/
def requireOrg (tenantId : ℕ) (body : OnboardingForm) : Except Failure Unit := do
  refuseIf (body.regionId.any (fun i =>
      !(desk.credit.access.regions[i]?).any (fun r => r.tenantId = tenantId)))
    (.http 404 "Region not found")
  refuseIf (body.branchId.any (fun i =>
      !(desk.credit.access.branches[i]?).any (fun b => b.tenantId = tenantId)))
    (.http 404 "Branch not found")

/-- `POST /lending/borrowers`: the form always has a phone. -/
def createBorrower (caller : Caller) (lendingEnabled : Bool) (body : OnboardingForm)
    (today : Date) (draws : Fin 50 → Fin 900000) : Except Failure OnboardingDesk := do
  let (user, tenantId) ←
    desk.credit.authorise caller [("lending", lendingEnabled)] "clients.create"
  desk.registerClient caller.actorId user tenantId body today (desk.requireOrg tenantId body)
    user.fullName draws

/-- The loan book and the client records, with the permissions of the tenants. -/
def registry : Registry :=
  ⟨desk.credit.db, ⟨desk.records, [], desk.credit.access.overrides.rows, [], no_modules_known⟩⟩

/-- The user who edits a client. -/
def editor (caller : Caller) (lendingEnabled : Bool) (user : StaffedUser) (clientId : ℕ) :
    ClientEditor where
  user := user.actor caller.actorId
  xTenantId := caller.xTenantId
  lending := lendingEnabled
  seesClient := (desk.credit.scope user).canSeeClient
    ((desk.credit.clients[clientId]?).getD ⟨none, none⟩)

/-- A client as a form leaves it, with the rest of its file and the status of its profile. -/
def rewriteClient (registry : Registry) (clientId : ℕ) (branchId : Option ℕ)
    (rewrite : ClientFile → ClientFile) (status : String → String) : OnboardingDesk :=
  { desk with
    credit := { desk.credit with
      db := registry.db
      catalogue := { desk.credit.catalogue with
        profiles := desk.credit.catalogue.profiles.modify clientId
          (fun p => { p with status := status p.status }) }
      clients := desk.credit.clients.modify clientId
        (fun place => { place with branchId := branchId }) }
    records := registry.desk.clients
    files := desk.files.modify clientId rewrite }

/-- `PUT /clients/{id}`: a draft goes to the approvers when somebody who registers clients
saves it. -/
def updateClient (caller : Caller) (lendingEnabled : Bool) (clientId : ℕ) (body : OnboardingForm) :
    Except Failure OnboardingDesk :=
  match desk.credit.access.users[caller.actorId]? with
  | none => .error (.http 401 "User not found or inactive")
  | some user => do
    let registry ← desk.registry.updateClient (desk.editor caller lendingEnabled user clientId)
      clientId body.record
    let submits := hasPermission user.account.role "clients.create"
    return desk.rewriteClient registry clientId body.branchId
      (fun file => { file with
        regionId := body.regionId
        businessSector := body.businessSector
        onboardedBy := body.onboardedBy })
      (fun status => if status = "draft" && submits then "pending_approval" else status)

/-- `PUT /lending/borrowers/{id}`. -/
def updateBorrower (caller : Caller) (lendingEnabled : Bool) (clientId : ℕ)
    (body : OnboardingForm) : Except Failure OnboardingDesk :=
  match desk.credit.access.users[caller.actorId]? with
  | none => .error (.http 401 "User not found or inactive")
  | some user => do
    let tenantId ← getTenantId (user.actor caller.actorId) caller.xTenantId
    let registry ← desk.registry.updateBorrower (desk.editor caller lendingEnabled user clientId)
      clientId (desk.requireOrg tenantId body) body.record
    return desk.rewriteClient registry clientId body.branchId
      (fun file => { file with
        regionId := body.regionId
        businessSector := body.businessSector })
      id

/-- `POST /impact/surveys`: it counts for the loan cycle that comes next. -/
def submitSurvey (caller : Caller) (impactEnabled : Bool) (clientId : ℕ) :
    Except Failure OnboardingDesk := do
  let (_, tenantId) ← desk.credit.enter caller [("impact", impactEnabled)]
  refuseIf (!(desk.borrowers[clientId]?).any (fun b => b.tenantId = tenantId))
    (.http 404 "Borrower not found")
  let cycle := (desk.credit.db.loans.filter (fun l => l.borrowerId = clientId)).length + 1
  return { desk with credit := { desk.credit with catalogue := { desk.credit.catalogue with
    profiles := desk.credit.catalogue.profiles.modify clientId
      (fun p => { p with surveyedCycles := p.surveyedCycles ++ [cycle] }) } } }

/-- `POST /approvals/clients/{id}`, whatever the status of the profile. What is no approval
rejects. -/
def decideClient (caller : Caller) (clientId : ℕ) (action : String) :
    Except Failure OnboardingDesk := do
  let (user, tenantId) ← desk.credit.authorise caller [] "clients.approve"
  refuseIf (!(desk.borrowers[clientId]?).any (fun b => b.tenantId = tenantId))
    (.http 404 "Client not found")
  refuseIf (!(desk.credit.scope user).canSeeClient
    ((desk.credit.clients[clientId]?).getD ⟨none, none⟩))
    (.http 403 "Client is outside your scope")
  refuseIf (user.account.role ≠ "super_admin" ∧ !approverEnabled desk.credit.access.settings.rows
      tenantId "client" user.account.role)
    (.http 403
      "Your role is not configured as an approver for client-profile approvals at this DCP")
  let status := if action = "approve" then "approved" else "rejected"
  return { desk with
    credit := { desk.credit with catalogue := { desk.credit.catalogue with
      profiles := desk.credit.catalogue.profiles.modify clientId
        (fun p => { p with status := status }) } }
    files := desk.files.modify clientId (fun file =>
      if action = "approve" then { file with approvedByUserId := some caller.actorId }
      else file) }

/-- `_get_lead`. -/
def getLead (tenantId leadId : ℕ) : Except Failure CrmLead :=
  match (desk.leads[leadId]?).filter (fun l => l.tenantId = tenantId) with
  | none => .error (.http 404 "Lead not found")
  | some lead => .ok lead

def createLead (caller : Caller) (crmEnabled : Bool) (body : LeadCreate) :
    Except Failure OnboardingDesk := do
  let (_, tenantId) ← desk.credit.enter caller [("crm", crmEnabled)]
  let lead : CrmLead :=
    { tenantId := tenantId
      name := body.name
      phone := body.phone
      sector := body.sector
      regionId := body.regionId
      stage := body.stage
      stageDetail := "cold"
      assignedStaffId := body.assignedStaffId
      estimatedLoanAmount := body.estimatedLoanAmount
      bmApprovalStatus := none
      bmApprovedBy := none
      bmApprovedAt := none
      bmRejectionReason := none
      convertedToClientId := none
      conversionTriggeredAt := none
      conversionValidations := none }
  return { desk with leads := desk.leads ++ [lead] }

/-- `PATCH /crm/leads/{id}/stage`. -/
def moveLead (caller : Caller) (crmEnabled : Bool) (leadId : ℕ) (stage : String) :
    Except Failure OnboardingDesk := do
  let (_, tenantId) ← desk.credit.enter caller [("crm", crmEnabled)]
  let valid := showTexts crmStages
  refuseIf (stage ∉ crmStages) (.http 400 s!"Invalid stage. Valid: {valid}")
  let lead ← desk.getLead tenantId leadId
  return { desk with leads := desk.leads.set leadId { lead with stage := stage } }

def setLeadTemperature (caller : Caller) (crmEnabled : Bool) (leadId : ℕ) (temperature : String) :
    Except Failure OnboardingDesk := do
  let (_, tenantId) ← desk.credit.enter caller [("crm", crmEnabled)]
  let valid := showTexts leadTemperatures
  refuseIf (temperature ∉ leadTemperatures) (.http 400 s!"Invalid temperature. Valid: {valid}")
  let lead ← desk.getLead tenantId leadId
  return { desk with leads := desk.leads.set leadId { lead with stageDetail := temperature } }

/-- `bm_approve_lead`, and `bm_reject_lead` with its reason. -/
def bmDecideLead (caller : Caller) (crmEnabled : Bool) (leadId : ℕ) (now : ℤ)
    (verdict : BmApproval) (reason : Option String) : Except Failure OnboardingDesk := do
  let (_, tenantId) ← desk.credit.authorise caller [("crm", crmEnabled)] "clients.approve"
  let lead ← desk.getLead tenantId leadId
  let decided := { lead with
    bmApprovalStatus := some verdict
    bmApprovedBy := some caller.actorId
    bmApprovedAt := some now
    bmRejectionReason := reason }
  return { desk with leads := desk.leads.set leadId decided }

/-- A lead after its conversion; one that is disbursed stays where it is. -/
def converted (lead : CrmLead) (clientId : ℕ) (now : ℤ) (decision : Option KycDecision) :
    CrmLead :=
  { lead with
    convertedToClientId := some clientId
    conversionTriggeredAt := some now
    stage := if "disbursed".toList <:+: lead.stage.toList then lead.stage else "app_setup"
    conversionValidations := decision }

/-- `convert_to_onboarding`, with what the given date is read as, if it is a date. The client and
the link to it are committed before the KYC engine is asked; where that raises, the request ends
without a decision on the lead. -/
def convertToOnboarding (caller : Caller) (crmEnabled : Bool) (leadId : ℕ) (nationalId : String)
    (dateOfBirth : Option (Option Date)) (draws : Fin 50 → Fin 900000) (kyc : KycInputs)
    (now : ℤ) : Except Failure OnboardingDesk := do
  let (user, tenantId) ← desk.credit.authorise caller [("crm", crmEnabled)] "clients.create"
  let lead ← desk.getLead tenantId leadId
  refuseIf (lead.bmApprovalStatus ≠ some .approved)
    (.http 409 "Lead must be BM-approved before conversion")
  refuseIf lead.convertedToClientId.isSome (.http 409 "Lead already converted")
  refuseIf (dateOfBirth = some none)
    (.http 400 "date_of_birth must be ISO format (YYYY-MM-DD)")
  let (firstName, lastName) := splitName lead.name
  let record : ClientRecord :=
    { tenantId := tenantId
      firstName := some firstName
      lastName := some lastName
      phone := some (lead.phone.getD "")
      altPhone := none
      nationalId := some nationalId
      dateOfBirth := dateOfBirth.join.map isoDate
      gender := none }
  let file : ClientFile :=
    { regionId := lead.regionId
      businessSector := lead.sector
      kycStatus := "draft"
      onboardedBy := some user.account.email
      dateOfBirthVerified := false
      approvedByUserId := none }
  let onboarded ← desk.insertClient record "draft" ⟨none, none⟩ file draws
  let clientId := desk.borrowers.length
  let decision := kyc.decision tenantId clientId dateOfBirth.join
  return { onboarded with leads := desk.leads.set leadId (converted lead clientId now decision) }

end OnboardingDesk

inductive OnboardingEvent
  | credit (e : CreditEvent)
  | createProduct (product : Product) (listing : ProductListing)
  | updateProduct (tenantId productId : ℕ) (product : Product) (listing : ProductListing)
  | createClient (caller : Caller) (lendingEnabled : Bool) (body : OnboardingForm) (today : Date)
    (draws : Fin 50 → Fin 900000)
  | createBorrower (caller : Caller) (lendingEnabled : Bool) (body : OnboardingForm) (today : Date)
    (draws : Fin 50 → Fin 900000)
  | updateClient (caller : Caller) (lendingEnabled : Bool) (clientId : ℕ) (body : OnboardingForm)
  | updateBorrower (caller : Caller) (lendingEnabled : Bool) (clientId : ℕ) (body : OnboardingForm)
  | submitSurvey (caller : Caller) (impactEnabled : Bool) (clientId : ℕ)
  | decideClient (caller : Caller) (clientId : ℕ) (action : String)
  | createLead (caller : Caller) (crmEnabled : Bool) (body : LeadCreate)
  | moveLead (caller : Caller) (crmEnabled : Bool) (leadId : ℕ) (stage : String)
  | setLeadTemperature (caller : Caller) (crmEnabled : Bool) (leadId : ℕ) (temperature : String)
  | bmApproveLead (caller : Caller) (crmEnabled : Bool) (leadId : ℕ) (now : ℤ)
  | bmRejectLead (caller : Caller) (crmEnabled : Bool) (leadId : ℕ) (now : ℤ) (reason : String)
  | convertToOnboarding (caller : Caller) (crmEnabled : Bool) (leadId : ℕ) (nationalId : String)
    (dateOfBirth : Option (Option Date)) (draws : Fin 50 → Fin 900000) (kyc : KycInputs)
    (now : ℤ)

namespace OnboardingDesk

variable (desk : OnboardingDesk)

/-- What is committed of a request. -/
def saved : Except Failure OnboardingDesk → OnboardingDesk
  | .ok saved => saved
  | .error _ => desk

/-- A request by its outcome; what happens to the loans happens at the credit desk. -/
def handle : OnboardingEvent → Except Failure OnboardingDesk
  | .credit e => .ok { desk with credit := desk.credit.step e }
  | .createProduct product listing =>
    let (db, catalogue) :=
      FinylDcp.createProduct desk.credit.db desk.credit.catalogue product listing
    .ok { desk with credit := { desk.credit with db := db, catalogue := catalogue } }
  | .updateProduct tenantId productId product listing => do
    let (db, catalogue) ← FinylDcp.updateProduct desk.credit.db desk.credit.catalogue tenantId
      productId product listing
    return { desk with credit := { desk.credit with db := db, catalogue := catalogue } }
  | .createClient caller lendingEnabled body today draws =>
    desk.createClient caller lendingEnabled body today draws
  | .createBorrower caller lendingEnabled body today draws =>
    desk.createBorrower caller lendingEnabled body today draws
  | .updateClient caller lendingEnabled clientId body =>
    desk.updateClient caller lendingEnabled clientId body
  | .updateBorrower caller lendingEnabled clientId body =>
    desk.updateBorrower caller lendingEnabled clientId body
  | .submitSurvey caller impactEnabled clientId => desk.submitSurvey caller impactEnabled clientId
  | .decideClient caller clientId action => desk.decideClient caller clientId action
  | .createLead caller crmEnabled body => desk.createLead caller crmEnabled body
  | .moveLead caller crmEnabled leadId stage => desk.moveLead caller crmEnabled leadId stage
  | .setLeadTemperature caller crmEnabled leadId temperature =>
    desk.setLeadTemperature caller crmEnabled leadId temperature
  | .bmApproveLead caller crmEnabled leadId now =>
    desk.bmDecideLead caller crmEnabled leadId now .approved none
  | .bmRejectLead caller crmEnabled leadId now reason =>
    desk.bmDecideLead caller crmEnabled leadId now .rejected (some reason)
  | .convertToOnboarding caller crmEnabled leadId nationalId dateOfBirth draws kyc now =>
    desk.convertToOnboarding caller crmEnabled leadId nationalId dateOfBirth draws kyc now

def step (e : OnboardingEvent) : OnboardingDesk := desk.saved (desk.handle e)

end OnboardingDesk

end FinylDcp
