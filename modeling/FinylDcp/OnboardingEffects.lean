import FinylDcp.LoanApprovals
import FinylDcp.OnboardingDesk

/-!
# What happens at the onboarding desk

Each event once: what it rests on, and what it does to the clients, the leads and the loans.
-/
namespace FinylDcp
open Tables Text

theorem life_borrowers (db : Db) (e : LifeEvent) :
    (e.apply db).borrowers.length = db.borrowers.length := by
  have heffect := life_effect db e
  generalize e.settled db = settled at heffect
  cases heffect with
  | moves hloans hborrowers hlogs => rw [hborrowers]
  | activates loanId loan product today hrow hstatus hproduct hproducts hloans hborrowers hlogs =>
    rw [hborrowers, List.length_modify]
  | settles loanId loan paid now hrow hopen hpaid hloans hborrowers hlogs =>
    rw [hborrowers, releaseActiveLock_borrowers]
    split_ifs
    · rfl
    · rw [List.length_modify]

namespace CreditDesk

variable {desk : CreditDesk}

/-- A signed-in user with a permission, at the tenant of the request. -/
structure Permitted (desk : CreditDesk) (caller : Caller) (key : String) (user : StaffedUser)
    (tenantId : ℕ) : Prop where
  signedIn : desk.access.users[caller.actorId]? = some user
  tenant : getTenantId (user.actor caller.actorId) caller.xTenantId = .ok tenantId
  permitted : user.account.role = "super_admin" ∨ key ∈ effectivePermissions
    desk.access.overrides.rows (user.account.tenantId.getD 0) user.account.role

theorem permitted_of_authorise {caller : Caller} {modules : List (String × Bool)} {key : String}
    {user : StaffedUser} {tenantId : ℕ}
    (h : desk.authorise caller modules key = .ok (user, tenantId)) :
    desk.Permitted caller key user tenantId := by
  obtain ⟨hsigned, htenant, hpermitted⟩ := authorise_eq_ok h
  exact ⟨hsigned, htenant, hpermitted⟩

/-- What happens to loans leaves the clients who and what they are. -/
theorem step_clients (desk : CreditDesk) (event : CreditEvent) :
    (desk.step event).catalogue = desk.catalogue ∧ (desk.step event).clients = desk.clients ∧
      (desk.step event).db.borrowers.length = desk.db.borrowers.length := by
  cases event with
  | access call => exact ⟨rfl, rfl, rfl⟩
  | apply caller lendingEnabled body requestedStaffId year =>
    simp only [step]
    cases h : desk.applyAs caller lendingEnabled body requestedStaffId year with
    | ok desk' =>
      obtain ⟨⟨user, tenantId⟩, -, h⟩ := bind_eq_ok.mp h
      obtain ⟨⟨db, id⟩, happlied, h⟩ := bind_eq_ok.mp h
      obtain rfl := Except.ok.inj h
      obtain ⟨borrower, product, -, -, -, -, hdb⟩ := applyForLoan_eq_ok happlied
      obtain rfl : db = _ := hdb
      exact ⟨rfl, rfl, rfl⟩
    | error failure => exact ⟨rfl, rfl, rfl⟩
  | reassign caller lendingEnabled loanId staffId =>
    simp only [step]
    cases h : desk.reassignAs caller lendingEnabled loanId staffId with
    | ok desk' =>
      obtain ⟨⟨user, tenantId⟩, -, h⟩ := bind_eq_ok.mp h
      dsimp only at h
      split at h
      · obtain ⟨-, -, h⟩ := bind_eq_ok.mp h
        obtain ⟨-, -, h⟩ := bind_eq_ok.mp h
        obtain rfl := Except.ok.inj h
        exact ⟨rfl, rfl, rfl⟩
      · cases h
    | error failure => exact ⟨rfl, rfl, rfl⟩
  | decide caller loanId action =>
    simp only [step, decideAs]
    split
    · exact ⟨rfl, rfl, rfl⟩
    rename_i user tenantId hlogged
    generalize desk.decider user tenantId _ = decider
    split
    · rename_i db hdecided
      refine ⟨rfl, rfl, ?_⟩
      have hlength := life_borrowers desk.db (.decide tenantId loanId decider action)
      simpa only [LifeEvent.apply, hdecided, Db.saved] using hlength
    · exact ⟨rfl, rfl, rfl⟩
    · exact ⟨rfl, rfl, rfl⟩
  | life e =>
    simp only [step]
    split
    · exact ⟨rfl, rfl, rfl⟩
    · exact ⟨rfl, rfl, life_borrowers desk.db e⟩

end CreditDesk

/-- The user of an event that registers a client. -/
def OnboardingEvent.registration : OnboardingEvent → Option Caller
  | .createClient caller .. => some caller
  | .createBorrower caller .. => some caller
  | _ => none

/-- The verdict of an event on a lead. -/
def OnboardingEvent.verdict : OnboardingEvent → Option (Caller × ℕ × BmApproval)
  | .bmApproveLead caller _ leadId _ => some (caller, leadId, .approved)
  | .bmRejectLead caller _ leadId _ _ => some (caller, leadId, .rejected)
  | _ => none

/-- A lead that is where it was with the branch manager and with its client. -/
structure CrmLead.SameStanding (lead lead' : CrmLead) : Prop where
  status : lead'.bmApprovalStatus = lead.bmApprovalStatus
  decider : lead'.bmApprovedBy = lead.bmApprovedBy
  client : lead'.convertedToClientId = lead.convertedToClientId

namespace OnboardingDesk

variable {desk desk' : OnboardingDesk}

/-- A user whose clients need no approver: no front-line officer, and one who may approve. -/
structure SelfApproving (desk : OnboardingDesk) (caller : Caller) (user : StaffedUser)
    (tenantId : ℕ) : Prop where
  registers : desk.credit.Permitted caller "clients.create" user tenantId
  approves : desk.credit.Permitted caller "clients.approve" user tenantId
  office : user.account.role ∉ originatorRoles ++ officerScopeRoles

/-- What a decision of a user on a profile rests on: the permission, the approvers of the tenant,
and the data scope. -/
structure ClientAuthority (desk : OnboardingDesk) (caller : Caller) (clientId : ℕ)
    (user : StaffedUser) (tenantId : ℕ) : Prop where
  permitted : desk.credit.Permitted caller "clients.approve" user tenantId
  approver : approverEnabled desk.credit.access.settings.rows tenantId "client"
    user.account.role = true
  row : ∃ b, desk.borrowers[clientId]? = some b ∧ b.tenantId = tenantId
  sees : (desk.credit.scope user).canSeeClient
    ((desk.credit.clients[clientId]?).getD ⟨none, none⟩) = true

/-- What an event does to the desk. -/
inductive Effect (desk : OnboardingDesk) (e : OnboardingEvent) : OnboardingDesk → Prop
  | refused : Effect desk e desk
  | credit (event : CreditEvent) (he : e = .credit event) :
    Effect desk e { desk with credit := desk.credit.step event }
  | products (db : Db) (catalogue : Catalogue) (hborrowers : db.borrowers = desk.borrowers)
    (hloans : db.loans = desk.credit.db.loans)
    (hprofiles : catalogue.profiles = desk.credit.catalogue.profiles) :
    Effect desk e { desk with credit := { desk.credit with db := db, catalogue := catalogue } }
  | registered (record : ClientRecord) (status : String) (place : ClientPlacement)
    (file : ClientFile) (draws : Fin 50 → Fin 900000) (desk' : OnboardingDesk)
    (hinserted : desk.insertClient record status place file draws = .ok desk')
    (hstatus : status = "approved" → ∃ caller user tenantId, e.registration = some caller ∧
      desk.SelfApproving caller user tenantId) : Effect desk e desk'
  | rewritten (registry : Registry) (clientId : ℕ) (branchId : Option ℕ)
    (rewrite : ClientFile → ClientFile) (status : String → String)
    (hborrowers : registry.db.borrowers.length = desk.borrowers.length)
    (hloans : registry.db.loans = desk.credit.db.loans)
    (hrewrite : ∀ file, (rewrite file).approvedByUserId = file.approvedByUserId)
    (hstatus : ∀ s, status s = "approved" → s = "approved") :
    Effect desk e (desk.rewriteClient registry clientId branchId rewrite status)
  | surveyed (clientId cycle : ℕ) :
    Effect desk e { desk with credit := { desk.credit with catalogue := { desk.credit.catalogue with
      profiles := desk.credit.catalogue.profiles.modify clientId
        (fun p => { p with surveyedCycles := p.surveyedCycles ++ [cycle] }) } } }
  | decided (caller : Caller) (clientId : ℕ) (action : String) (user : StaffedUser)
    (tenantId : ℕ) (he : e = .decideClient caller clientId action)
    (hauthority : desk.ClientAuthority caller clientId user tenantId) :
    Effect desk e { desk with
      credit := { desk.credit with catalogue := { desk.credit.catalogue with
        profiles := desk.credit.catalogue.profiles.modify clientId
          (fun p => { p with status := if action = "approve" then "approved" else "rejected" }) } }
      files := desk.files.modify clientId (fun file =>
        if action = "approve" then { file with approvedByUserId := some caller.actorId }
        else file) }
  | leadAdded (lead : CrmLead) (hverdict : lead.bmApprovalStatus = none)
    (hfresh : lead.convertedToClientId = none) :
    Effect desk e { desk with leads := desk.leads ++ [lead] }
  | leadEdited (leadId : ℕ) (lead lead' : CrmLead) (hrow : desk.leads[leadId]? = some lead)
    (hsame : lead.SameStanding lead') :
    Effect desk e { desk with leads := desk.leads.set leadId lead' }
  | leadDecided (caller : Caller) (leadId : ℕ) (verdict : BmApproval) (lead lead' : CrmLead)
    (user : StaffedUser) (tenantId : ℕ) (he : e.verdict = some (caller, leadId, verdict))
    (hpermitted : desk.credit.Permitted caller "clients.approve" user tenantId)
    (hrow : desk.leads[leadId]? = some lead) (hown : lead.tenantId = tenantId)
    (hstatus : lead'.bmApprovalStatus = some verdict)
    (hby : lead'.bmApprovedBy = some caller.actorId)
    (hclient : lead'.convertedToClientId = lead.convertedToClientId) :
    Effect desk e { desk with leads := desk.leads.set leadId lead' }
  | conversion (caller : Caller) (crmEnabled : Bool) (leadId : ℕ) (nationalId : String)
    (dateOfBirth : Option (Option Calendar.Date)) (draws : Fin 50 → Fin 900000)
    (kyc : KycInputs) (now : ℤ) (user : StaffedUser) (tenantId : ℕ) (lead : CrmLead)
    (record : ClientRecord) (file : ClientFile) (onboarded : OnboardingDesk)
    (he : e = .convertToOnboarding caller crmEnabled leadId nationalId dateOfBirth draws kyc
      now) (hpermitted : desk.credit.Permitted caller "clients.create" user tenantId)
    (hrow : desk.leads[leadId]? = some lead) (hown : lead.tenantId = tenantId)
    (hverdict : lead.bmApprovalStatus = some .approved)
    (hfresh : lead.convertedToClientId = none) (htenant : record.tenantId = tenantId)
    (hphone : record.phone = some (lead.phone.getD ""))
    (hinserted : desk.insertClient record "draft" ⟨none, none⟩ file draws = .ok onboarded) :
    Effect desk e { onboarded with
      leads := desk.leads.set leadId (converted lead desk.borrowers.length now
          (kyc.decision tenantId desk.borrowers.length dateOfBirth.join)) }

theorem insertClient_eq_ok {record : ClientRecord} {status : String} {place : ClientPlacement}
    {file : ClientFile} {draws : Fin 50 → Fin 900000}
    (h : desk.insertClient record status place file draws = .ok desk') :
    ∃ number phone, record.phone = some phone ∧
      desk'.credit.db = { desk.credit.db with
        borrowers := desk.borrowers ++ [⟨record.tenantId, phone, some number, false, none⟩] } ∧
      desk'.credit.catalogue = { desk.credit.catalogue with
        profiles := desk.credit.catalogue.profiles ++ [⟨status, []⟩] } ∧
      desk'.credit.placements = desk.credit.placements ∧
      desk'.credit.access = desk.credit.access ∧
      desk'.records = desk.records ++ [record] ∧ desk'.files = desk.files ++ [file] ∧
      desk'.leads = desk.leads := by
  unfold insertClient at h
  split at h
  · cases h
  · cases h
  · rename_i number phone hnumber hphone
    obtain rfl := Except.ok.inj h
    exact ⟨number, phone, hphone, rfl, rfl, rfl, rfl, rfl, rfl, rfl⟩

/-- A new profile is approved at once only for a user who may approve and is no officer. -/
theorem initialProfileState_approved {userId : ℕ} {user : StaffedUser} {officer : Option ℕ}
    (h : desk.initialProfileState userId user = .ok ("approved", officer)) :
    (user.account.role = "super_admin" ∨ "clients.approve" ∈ effectivePermissions
      desk.credit.access.overrides.rows (user.account.tenantId.getD 0) user.account.role) ∧
    user.account.role ∉ originatorRoles ++ officerScopeRoles := by
  unfold initialProfileState at h
  dsimp only at h
  split at h
  · split at h
    · cases h
    · exact absurd (Prod.mk.inj (Except.ok.inj h)).1 (by decide)
  rename_i hrole
  split at h
  · rename_i hcan
    rw [userCan, Bool.or_eq_true] at hcan
    refine ⟨hcan.imp of_decide_eq_true List.contains_iff_mem.mp, ?_⟩
    simpa [not_or] using hrole
  · exact absurd (Prod.mk.inj (Except.ok.inj h)).1 (by decide)

theorem getLead_eq_ok {tenantId leadId : ℕ} {lead : CrmLead}
    (h : desk.getLead tenantId leadId = .ok lead) :
    desk.leads[leadId]? = some lead ∧ lead.tenantId = tenantId := by
  unfold getLead at h
  split at h
  · cases h
  · rename_i found hfound
    obtain rfl := Except.ok.inj h
    simpa [Option.filter_eq_some_iff] using hfound

theorem registerClient_effect {caller : Caller} {user : StaffedUser} {tenantId : ℕ}
    {body : OnboardingForm} {today : Calendar.Date} {references : Except Failure Unit}
    {onboardedBy : String} {draws : Fin 50 → Fin 900000} {e : OnboardingEvent}
    (he : e.registration = some caller)
    (hregisters : desk.credit.Permitted caller "clients.create" user tenantId)
    (h : desk.registerClient caller.actorId user tenantId body today references onboardedBy
      draws = .ok desk') : desk.Effect e desk' := by
  obtain ⟨-, -, h⟩ := bind_eq_ok.mp h
  obtain ⟨-, -, h⟩ := bind_eq_ok.mp h
  obtain ⟨⟨status, officer⟩, hstate, h⟩ := bind_eq_ok.mp h
  refine .registered _ status _ _ draws desk' h ?_
  rintro rfl
  obtain ⟨hmay, hoffice⟩ := initialProfileState_approved hstate
  exact ⟨caller, user, tenantId, he, hregisters,
    ⟨hregisters.signedIn, hregisters.tenant, hmay⟩, hoffice⟩

theorem decideClient_effect {caller : Caller} {clientId : ℕ} {action : String}
    (h : desk.decideClient caller clientId action = .ok desk') :
    desk.Effect (.decideClient caller clientId action) desk' := by
  obtain ⟨⟨user, tenantId⟩, hlogged, h⟩ := bind_eq_ok.mp h
  obtain ⟨u, hrow, h⟩ := bind_eq_ok.mp h
  obtain ⟨u, hsees, h⟩ := bind_eq_ok.mp h
  obtain ⟨u, happrover, h⟩ := bind_eq_ok.mp h
  have hown := refuseIf_eq_ok.mp hrow
  have hscope := refuseIf_eq_ok.mp hsees
  have henabled := refuseIf_eq_ok.mp happrover
  obtain rfl := Except.ok.inj h
  refine .decided caller clientId action user tenantId rfl
    ⟨CreditDesk.permitted_of_authorise hlogged, ?_, ?_, by simpa using hscope⟩
  · by_cases hadmin : user.account.role = "super_admin"
    · simp [approverEnabled, hadmin]
    · simpa [hadmin] using henabled
  · simpa [Option.any_eq_true] using hown

theorem bmDecideLead_effect {caller : Caller} {crmEnabled : Bool} {leadId : ℕ} {now : ℤ}
    {verdict : BmApproval} {reason : Option String} {e : OnboardingEvent}
    (he : e.verdict = some (caller, leadId, verdict))
    (h : desk.bmDecideLead caller crmEnabled leadId now verdict reason = .ok desk') :
    desk.Effect e desk' := by
  obtain ⟨⟨user, tenantId⟩, hlogged, h⟩ := bind_eq_ok.mp h
  obtain ⟨lead, hlead, h⟩ := bind_eq_ok.mp h
  obtain rfl := Except.ok.inj h
  obtain ⟨hrow, hown⟩ := getLead_eq_ok hlead
  exact .leadDecided caller leadId verdict lead _ user tenantId he
    (CreditDesk.permitted_of_authorise hlogged) hrow hown rfl rfl rfl

theorem convertToOnboarding_effect {caller : Caller} {crmEnabled : Bool} {leadId : ℕ}
    {nationalId : String} {dateOfBirth : Option (Option Calendar.Date)}
    {draws : Fin 50 → Fin 900000} {kyc : KycInputs} {now : ℤ}
    (h : desk.convertToOnboarding caller crmEnabled leadId nationalId dateOfBirth draws kyc
      now = .ok desk') :
    desk.Effect (.convertToOnboarding caller crmEnabled leadId nationalId dateOfBirth draws
      kyc now) desk' := by
  obtain ⟨⟨user, tenantId⟩, hlogged, h⟩ := bind_eq_ok.mp h
  obtain ⟨lead, hlead, h⟩ := bind_eq_ok.mp h
  obtain ⟨u, hverdict, h⟩ := bind_eq_ok.mp h
  obtain ⟨u, honce, h⟩ := bind_eq_ok.mp h
  obtain ⟨-, -, h⟩ := bind_eq_ok.mp h
  obtain ⟨onboarded, hinserted, h⟩ := bind_eq_ok.mp h
  have hletThrough : lead.bmApprovalStatus = some .approved := by
    simpa using refuseIf_eq_ok.mp hverdict
  have hfresh : lead.convertedToClientId = none := by
    simpa using refuseIf_eq_ok.mp honce
  obtain ⟨hrow, hown⟩ := getLead_eq_ok hlead
  obtain rfl := Except.ok.inj h
  exact .conversion caller crmEnabled leadId nationalId dateOfBirth draws kyc now user
    tenantId lead _ _ onboarded rfl (CreditDesk.permitted_of_authorise hlogged) hrow hown
    hletThrough hfresh rfl rfl hinserted

/-- What any event does. -/
theorem step_effect (desk : OnboardingDesk) (e : OnboardingEvent) :
    desk.Effect e (desk.step e) := by
  unfold step
  cases h : desk.handle e with
  | error failure => exact .refused
  | ok desk' =>
    show desk.Effect e desk'
    cases e with
    | credit event =>
      obtain rfl := Except.ok.inj h
      exact .credit event rfl
    | createProduct product listing =>
      obtain rfl := Except.ok.inj h
      exact .products _ _ rfl rfl rfl
    | updateProduct tenantId productId product listing =>
      obtain ⟨⟨db, catalogue⟩, hout, h⟩ := bind_eq_ok.mp h
      obtain rfl := Except.ok.inj h
      unfold FinylDcp.updateProduct at hout
      split_ifs at hout
      obtain ⟨rfl, rfl⟩ := Prod.mk.inj (Except.ok.inj hout)
      exact .products _ _ rfl rfl rfl
    | createClient caller lendingEnabled body today draws =>
      obtain ⟨⟨user, tenantId⟩, hlogged, h⟩ := bind_eq_ok.mp h
      exact registerClient_effect rfl (CreditDesk.permitted_of_authorise hlogged) h
    | createBorrower caller lendingEnabled body today draws =>
      obtain ⟨⟨user, tenantId⟩, hlogged, h⟩ := bind_eq_ok.mp h
      exact registerClient_effect rfl (CreditDesk.permitted_of_authorise hlogged) h
    | updateClient caller lendingEnabled clientId body =>
      simp only [handle, updateClient] at h
      split at h
      · cases h
      obtain ⟨registry, hupdated, h⟩ := bind_eq_ok.mp h
      obtain rfl := Except.ok.inj h
      obtain ⟨_, client, -, -, hsaved⟩ := Registry.updateClient_updated hupdated
      obtain ⟨phone, rfl⟩ := Registry.save_eq_ok hsaved
      refine .rewritten _ clientId _ _ _ (List.length_modify ..) rfl (fun file => rfl)
        fun s hs => ?_
      split at hs
      · exact absurd hs (by decide)
      · exact hs
    | updateBorrower caller lendingEnabled clientId body =>
      simp only [handle, updateBorrower] at h
      split at h
      · cases h
      obtain ⟨tenantId, -, h⟩ := bind_eq_ok.mp h
      obtain ⟨registry, hupdated, h⟩ := bind_eq_ok.mp h
      obtain rfl := Except.ok.inj h
      obtain ⟨_, client, -, -, hsaved⟩ := Registry.updateBorrower_updated hupdated
      obtain ⟨phone, rfl⟩ := Registry.save_eq_ok hsaved
      exact .rewritten _ clientId _ _ _ (List.length_modify ..) rfl (fun file => rfl)
        fun s hs => hs
    | submitSurvey caller impactEnabled clientId =>
      obtain ⟨⟨user, tenantId⟩, -, h⟩ := bind_eq_ok.mp h
      obtain ⟨-, -, h⟩ := bind_eq_ok.mp h
      obtain rfl := Except.ok.inj h
      exact .surveyed clientId _
    | decideClient caller clientId action => exact decideClient_effect h
    | createLead caller crmEnabled body =>
      obtain ⟨⟨user, tenantId⟩, -, h⟩ := bind_eq_ok.mp h
      obtain rfl := Except.ok.inj h
      exact .leadAdded _ rfl rfl
    | moveLead caller crmEnabled leadId stage =>
      obtain ⟨⟨user, tenantId⟩, -, h⟩ := bind_eq_ok.mp h
      obtain ⟨-, -, h⟩ := bind_eq_ok.mp h
      obtain ⟨lead, hlead, h⟩ := bind_eq_ok.mp h
      obtain rfl := Except.ok.inj h
      exact .leadEdited leadId lead _ (getLead_eq_ok hlead).1 ⟨rfl, rfl, rfl⟩
    | setLeadTemperature caller crmEnabled leadId temperature =>
      obtain ⟨⟨user, tenantId⟩, -, h⟩ := bind_eq_ok.mp h
      obtain ⟨-, -, h⟩ := bind_eq_ok.mp h
      obtain ⟨lead, hlead, h⟩ := bind_eq_ok.mp h
      obtain rfl := Except.ok.inj h
      exact .leadEdited leadId lead _ (getLead_eq_ok hlead).1 ⟨rfl, rfl, rfl⟩
    | bmApproveLead caller crmEnabled leadId now => exact bmDecideLead_effect rfl h
    | bmRejectLead caller crmEnabled leadId now reason => exact bmDecideLead_effect rfl h
    | convertToOnboarding caller crmEnabled leadId nationalId dateOfBirth draws kyc now =>
      exact convertToOnboarding_effect h

end OnboardingDesk

end FinylDcp
